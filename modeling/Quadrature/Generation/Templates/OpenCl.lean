import Quadrature.Generation.Templates.Kernel

/-!
The source of an integral that is computed on an OpenCL device. The program of the device stands in it
as a string literal.
-/

namespace Quadrature.Templates

open Template

def programLiteral : Template :=
  [.text "static const char *_", integralName, .text "_program_source =",
    .each "line" (.path ["program_lines"]) [.text "\n    \"", put ["line"], .text "\""] []] ++
  line [.text ";"]

def deviceFunction : Template :=
  code ["/* Prefer accelerators, then GPUs, then CPUs */"] ++
  line [.text "static cl_device_id _", integralName, .text "_device(void)"] ++
  code ["\x7b",
    "    cl_platform_id platforms[16];",
    "    cl_uint n_platforms = 0;",
    "    cl_device_type preferences[3] = \x7b CL_DEVICE_TYPE_ACCELERATOR, CL_DEVICE_TYPE_GPU, CL_DEVICE_TYPE_CPU \x7d;",
    "",
    "    if(clGetPlatformIDs(16, platforms, &n_platforms) != CL_SUCCESS)",
    "    \x7b",
    "        return NULL;",
    "    \x7d",
    "    if(n_platforms > 16)",
    "    \x7b",
    "        n_platforms = 16;",
    "    \x7d",
    "",
    "    for(int p = 0; p < 3; p++)",
    "    \x7b",
    "        for(cl_uint i = 0; i < n_platforms; i++)",
    "        \x7b",
    "            cl_device_id device;",
    "            if(clGetDeviceIDs(platforms[i], preferences[p], 1, &device, NULL) == CL_SUCCESS)",
    "            \x7b",
    "                return device;",
    "            \x7d",
    "        \x7d",
    "    \x7d",
    "",
    "    return NULL;",
    "\x7d",
    ""]

def boundAssignments (side key : String) : Template :=
  [.each "name" (.path ["integral", key])
    (line [.text ("    bounds." ++ side ++ "["), put ["loop", "index0"], .text "] = ", put ["name"],
      .text ";"])
    []]

def openClVariables : Template :=
  line [signature] ++
  code ["\x7b"] ++
  line [.text "    const size_t work_items = ", put ["work_items"], .text ";"] ++
  line [.text "    const cl_uint samples = (cl_uint)((", put ["n_calls"],
    .text " + work_items - 1) / work_items);"] ++
  code ["    double result = NAN;",
    "    double _error = NAN;",
    "    cl_int status;",
    "",
    "    cl_context context = NULL;",
    "    cl_command_queue queue = NULL;",
    "    cl_program program = NULL;",
    "    cl_kernel kernel = NULL;",
    "    cl_mem bounds_buffer = NULL;",
    "    cl_mem sums_buffer = NULL;",
    "    cl_mem squares_buffer = NULL;",
    "    double *sums = malloc(work_items * sizeof(double));",
    "    double *squares = malloc(work_items * sizeof(double));",
    "",
    "    /* Determine upper/lower bounds */"] ++
  line [.text "    ", boundsType, .text " bounds;"] ++
  boundAssignments "lower" "lower_bounds" ++
  boundAssignments "upper" "upper_bounds" ++
  code [""]

def openClSetup : Template :=
  code ["    do", "    \x7b"] ++
  line [.text "        cl_device_id device = _", integralName, .text "_device();"] ++
  code ["        if(device == NULL || sums == NULL || squares == NULL)",
    "        \x7b",
    "            break;",
    "        \x7d",
    "",
    "        context = clCreateContext(NULL, 1, &device, NULL, NULL, &status);",
    "        if(status != CL_SUCCESS)",
    "        \x7b",
    "            break;",
    "        \x7d",
    "        queue = clCreateCommandQueue(context, device, 0, &status);",
    "        if(status != CL_SUCCESS)",
    "        \x7b",
    "            break;",
    "        \x7d"] ++
  line [.text "        program = clCreateProgramWithSource(context, 1, &_", integralName,
    .text "_program_source, NULL, &status);"] ++
  code ["        if(status != CL_SUCCESS || clBuildProgram(program, 1, &device, NULL, NULL, NULL) != CL_SUCCESS)",
    "        \x7b",
    "            break;",
    "        \x7d"] ++
  line [.text "        kernel = clCreateKernel(program, \"", kernelName, .text "\", &status);"] ++
  code ["        if(status != CL_SUCCESS)",
    "        \x7b",
    "            break;",
    "        \x7d",
    ""]

def openClBuffers : Template :=
  code ["        bounds_buffer = clCreateBuffer(context, CL_MEM_READ_ONLY | CL_MEM_COPY_HOST_PTR,",
    "                                       sizeof(bounds), &bounds, &status);",
    "        if(status != CL_SUCCESS)",
    "        \x7b",
    "            break;",
    "        \x7d",
    "        sums_buffer = clCreateBuffer(context, CL_MEM_WRITE_ONLY, work_items * sizeof(double), NULL, &status);",
    "        if(status != CL_SUCCESS)",
    "        \x7b",
    "            break;",
    "        \x7d",
    "        squares_buffer = clCreateBuffer(context, CL_MEM_WRITE_ONLY, work_items * sizeof(double), NULL, &status);",
    "        if(status != CL_SUCCESS)",
    "        \x7b",
    "            break;",
    "        \x7d",
    ""]

def openClRun : Template :=
  code ["        cl_uint seed = (cl_uint)rand();",
    "        status = clSetKernelArg(kernel, 0, sizeof(cl_mem), &bounds_buffer);",
    "        status |= clSetKernelArg(kernel, 1, sizeof(cl_uint), &seed);",
    "        status |= clSetKernelArg(kernel, 2, sizeof(cl_uint), &samples);",
    "        status |= clSetKernelArg(kernel, 3, sizeof(cl_mem), &sums_buffer);",
    "        status |= clSetKernelArg(kernel, 4, sizeof(cl_mem), &squares_buffer);",
    "        if(status != CL_SUCCESS)",
    "        \x7b",
    "            break;",
    "        \x7d",
    "",
    "        if(clEnqueueNDRangeKernel(queue, kernel, 1, NULL, &work_items, NULL, 0, NULL, NULL) != CL_SUCCESS ||",
    "           clEnqueueReadBuffer(queue, sums_buffer, CL_TRUE, 0, work_items * sizeof(double), sums, 0, NULL, NULL) != CL_SUCCESS ||",
    "           clEnqueueReadBuffer(queue, squares_buffer, CL_TRUE, 0, work_items * sizeof(double), squares, 0, NULL, NULL) != CL_SUCCESS)",
    "        \x7b",
    "            break;",
    "        \x7d",
    ""]

def openClReduction : Template :=
  code ["        /* Reduce the per-item sums into a mean and its standard error */",
    "        double volume = 1.0;",
    "        double total = 0.0;",
    "        double total_squares = 0.0;"] ++
  line [.text "        for(int d = 0; d < ", dimensions, .text "; d++)"] ++
  code ["        \x7b",
    "            volume *= bounds.upper[d] - bounds.lower[d];",
    "        \x7d",
    "        for(size_t i = 0; i < work_items; i++)",
    "        \x7b",
    "            total += sums[i];",
    "            total_squares += squares[i];",
    "        \x7d",
    "",
    "        double n = (double)work_items * samples;",
    "        double mean = total / n;",
    "        double variance = total_squares / n - mean * mean;",
    "        result = volume * mean;",
    "        _error = volume * sqrt(variance > 0.0 ? variance / n : 0.0);",
    "    \x7d",
    "    while(0);"]

def openClCleanup : Template :=
  code ["",
    "    /* Cleanup */",
    "    if(squares_buffer != NULL) clReleaseMemObject(squares_buffer);",
    "    if(sums_buffer != NULL) clReleaseMemObject(sums_buffer);",
    "    if(bounds_buffer != NULL) clReleaseMemObject(bounds_buffer);",
    "    if(kernel != NULL) clReleaseKernel(kernel);",
    "    if(program != NULL) clReleaseProgram(program);",
    "    if(queue != NULL) clReleaseCommandQueue(queue);",
    "    if(context != NULL) clReleaseContext(context);",
    "    free(squares);",
    "    free(sums);",
    "",
    "    /* Store results */",
    "    if(error != NULL)",
    "    \x7b",
    "        *error = _error;",
    "    \x7d",
    "",
    "    return result;",
    "\x7d"]

def openClSource : Template :=
  bannerComment ++ ownIncludes ++
  code ["/* OpenCL includes */",
    "#ifdef __APPLE__",
    "#include <OpenCL/opencl.h>",
    "#else",
    "#include <CL/opencl.h>",
    "#endif"] ++
  dependencyIncludes ++
  code [""] ++
  boundsStruct ++
  code [""] ++
  programLiteral ++
  code [""] ++
  deviceFunction ++
  openClVariables ++
  openClSetup ++
  openClBuffers ++
  openClRun ++
  openClReduction ++
  openClCleanup

end Quadrature.Templates
