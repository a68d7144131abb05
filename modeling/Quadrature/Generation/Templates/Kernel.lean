import Quadrature.Generation.Templates.Parts

/-!
The program that a device runs for an integral: every work item draws points between the bounds and
adds up the values and the squared values of the integrand there.
-/

namespace Quadrature.Templates

open Template

def kernelName : Segment := put ["kernel_name"]

def kernelHead : Template :=
  line [.text "__kernel void ", kernelName, .text "(__global const ", boundsType,
    .text " *bounds,"] ++
  code ["                                const uint seed,",
    "                                const uint samples,",
    "                                __global double *sums,",
    "                                __global double *squares)"]

def kernelLoop : Template :=
  code ["    for(uint i = 0; i < samples; i++)", "    \x7b"] ++
  line [.text "        for(uint d = 0; d < ", dimensions, .text "; d++)"] ++
  code ["        \x7b",
    "            state ^= state << 13;",
    "            state ^= state >> 17;",
    "            state ^= state << 5;",
    "            x[d] = bounds->lower[d] + (state / 4294967296.0) * (bounds->upper[d] - bounds->lower[d]);",
    "        \x7d",
    ""] ++
  line (.text "        double value = " :: integrandCall ++ [.text ";"]) ++
  code ["        sum += value;", "        square += value * value;", "    \x7d"]

def kernel : Template :=
  code ["#pragma OPENCL EXTENSION cl_khr_fp64 : enable", ""] ++
  line [put ["integrand_text"]] ++
  code [""] ++
  boundsStruct ++
  code [""] ++
  kernelHead ++
  code ["\x7b",
    "    uint gid = get_global_id(0);",
    "    uint state = seed ^ (gid * 2654435761u);",
    "    double sum = 0.0;",
    "    double square = 0.0;"] ++
  line [.text "    double x[", dimensions, .text "];"] ++
  code ["", "    if(state == 0)", "    \x7b", "        state = 1;", "    \x7d", ""] ++
  kernelLoop ++
  code ["", "    sums[gid] = sum;", "    squares[gid] = square;", "\x7d"]

end Quadrature.Templates
