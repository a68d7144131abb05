import Quadrature.CommandLine.Arguments

/-!
What the program says about itself.
-/

namespace Quadrature.CommandLine

def textLines : List String → String
  | [] => ""
  | l :: ls => l ++ "\n" ++ textLines ls

def helpText : Level → String
  | .program => textLines [
      "Generate numerical integrators for C functions",
      "",
      "Usage: genint [OPTIONS] <COMMAND>",
      "",
      "Commands:",
      "  generate  Generate the integral of a C function",
      "  inspect   List the functions declared in a C file",
      "  help      Print this message or the help of the given subcommand(s)",
      "",
      "Options:",
      "  -c, --config <CONFIG>  Path to configuration file",
      "  -v, --verbose          Enable verbose logging",
      "  -h, --help             Print help",
      "  -V, --version          Print version"]
  | .generate => textLines [
      "Generate the integral of a C function",
      "",
      "Usage: genint generate [OPTIONS] --input <INPUT> --integrand <INTEGRAND> --output <OUTPUT>",
      "",
      "Options:",
      "  -i, --input <INPUT>              C file declaring the integrand",
      "  -I, --integrand <INTEGRAND>      Name of the integrand function",
      "  -o, --output <OUTPUT>            Output path without extension",
      "  -O, --output-name <OUTPUT_NAME>  Name of the generated integral (defaults to <integrand>_integral)",
      "  -d, --dependency <DEPENDENCIES>  Extra header to include in the generated source (repeatable)",
      "  -H, --header <HEADER>            Header name the generated source includes",
      "  -b, --backend <BACKEND>          Integrator backend [possible values: gsl-plain, gsl-miser, gsl-vegas, opencl]",
      "  -n, --n-calls <N_CALLS>          Number of integrand evaluations",
      "      --source-dependency <N>      Include the integrand's file, keeping this many trailing path components",
      "  -c, --config <CONFIG>            Path to configuration file",
      "  -v, --verbose                    Enable verbose logging",
      "  -h, --help                       Print help"]
  | .inspect => textLines [
      "List the functions declared in a C file",
      "",
      "Usage: genint inspect [OPTIONS] <FILE>",
      "",
      "Arguments:",
      "  <FILE>  C file to inspect",
      "",
      "Options:",
      "      --json             Print the declarations as JSON",
      "  -c, --config <CONFIG>  Path to configuration file",
      "  -v, --verbose          Enable verbose logging",
      "  -h, --help             Print help"]

def usageText : String :=
  textLines [
    "error: the arguments are not understood",
    "",
    "Usage: genint [OPTIONS] <COMMAND>",
    "",
    "For more information, try '--help'."]

end Quadrature.CommandLine
