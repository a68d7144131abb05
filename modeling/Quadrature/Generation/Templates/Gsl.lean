import Quadrature.Generation.Templates.Parts

/-!
The source of an integral that is computed by a Monte Carlo algorithm of the GNU Scientific Library.
-/

namespace Quadrature.Templates

open Template

def gslWrapper : Template :=
  line [.text "static double _", integralName,
    .text "_wrapper(double *x, size_t dim, void *params)"] ++
  code ["\x7b", "    (void)dim;", "    (void)params;"] ++
  line (.text "    return " :: integrandCall ++ [.text ";"]) ++
  code ["\x7d", ""]

def gslBounds (array key : String) : Template :=
  line [.text ("    double " ++ array ++ "["), dimensions, .text "] = \x7b ",
    .value (.join (.literal (.text ", ")) (.path ["integral", key])), .text " \x7d;"]

def gslSingleRun (algorithm : String) : Template :=
  line [.text ("        gsl_monte_" ++ algorithm ++ "_state *s = gsl_monte_" ++ algorithm ++ "_alloc("),
    dimensions, .text ");"] ++
  line [.text ("        gsl_monte_" ++ algorithm ++ "_integrate(&G, lower_bounds, upper_bounds, "),
    dimensions, .text ","] ++
  code ["                                  n_calls, r, s, &result, &_error);",
    "        gsl_monte_" ++ algorithm ++ "_free(s);"]

def gslVegasRuns : Template :=
  line [.text "        gsl_monte_vegas_state *s = gsl_monte_vegas_alloc(", dimensions, .text ");"] ++
  code ["", "        /* Warm up the grid */"] ++
  line [.text "        gsl_monte_vegas_integrate(&G, lower_bounds, upper_bounds, ", dimensions,
    .text ","] ++
  line [.text "                                  ", put ["vegas_warmup_calls"],
    .text ", r, s, &result, &_error);"] ++
  code ["", "        /* Converge on a result */", "        do", "        \x7b"] ++
  line [.text "            gsl_monte_vegas_integrate(&G, lower_bounds, upper_bounds, ", dimensions,
    .text ","] ++
  code ["                                      n_calls / 5, r, s, &result, &_error);",
    "        \x7d",
    "        while(fabs(gsl_monte_vegas_chisq(s) - 1.0) > 0.5);",
    "        gsl_monte_vegas_free(s);"]

def gslRuns : Template :=
  [.choose (.compare .equal (.path ["algorithm"]) (.literal (.text "plain")))
    (gslSingleRun "plain")
    [.choose (.compare .equal (.path ["algorithm"]) (.literal (.text "miser")))
      (gslSingleRun "miser")
      gslVegasRuns]]

def gslIncludes : Template :=
  bannerComment ++ ownIncludes ++
  code ["/* GSL includes */",
    "#include <gsl/gsl_math.h>",
    "#include <gsl/gsl_rng.h>",
    "#include <gsl/gsl_monte.h>"] ++
  line [.text "#include <gsl/gsl_monte_", put ["algorithm"], .text ".h>"] ++
  dependencyIncludes ++
  code [""]

def gslFunction : Template :=
  line [signature] ++
  code ["\x7b",
    "    /* Boiler plate GSL variables */",
    "    double result, _error;",
    "",
    "    /* Determine upper/lower bounds */"] ++
  gslBounds "lower_bounds" "lower_bounds" ++
  gslBounds "upper_bounds" "upper_bounds" ++
  code ["",
    "    /* Random number variables */",
    "    const gsl_rng_type *T;",
    "    gsl_rng *r;",
    "    gsl_rng_env_setup();",
    "    T = gsl_rng_default;",
    "    r = gsl_rng_alloc(T);",
    "",
    "    /* Call variables */"] ++
  line [.text "    gsl_monte_function G = \x7b &_", integralName, .text "_wrapper, ", dimensions,
    .text ", NULL \x7d;"] ++
  line [.text "    size_t n_calls = ", put ["n_calls"], .text ";"] ++
  code ["", "    /* Integrate! */", "    \x7b"] ++
  gslRuns ++
  code ["    \x7d",
    "",
    "    /* Cleanup */",
    "    gsl_rng_free(r);",
    "",
    "    /* Store results */",
    "    if(error != NULL)",
    "    \x7b",
    "        *error = _error;",
    "    \x7d",
    "",
    "    return result;",
    "\x7d"]

def gslSource : Template := gslIncludes ++ gslWrapper ++ gslFunction

end Quadrature.Templates
