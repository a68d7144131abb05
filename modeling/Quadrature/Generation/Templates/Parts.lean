import Quadrature.Template.Basic

/-!
Parts that the code templates share: lines of code, the values that stand in them, the banner, the
includes and the call of the integrand.
-/

namespace Quadrature.Templates

open Template

def line (parts : List Segment) : Template := parts ++ [.text "\n"]

def plainLines : List String → String
  | [] => ""
  | l :: ls => l ++ "\n" ++ plainLines ls

def code (ls : List String) : Template := [.text (plainLines ls)]

def put (path : List String) : Segment := .value (.path path)

def integralName : Segment := put ["integral", "name"]

def integrandName : Segment := put ["integral", "integrand", "name"]

def signature : Segment := put ["integral", "signature"]

def dimensions : Segment := put ["integral", "n_dimensions"]

def boundsType : Segment := put ["bounds_type"]

def bannerComment : Template :=
  [.choose (.path ["banner"]) (line [.text "/* ", put ["banner"], .text " */"]) []]

def ownIncludes : Template :=
  code ["/* Self-includes */"] ++
  line [.text "#include \"", put ["header_include_name"], .text "\""] ++
  code ["",
    "/* Standard includes */",
    "#include <math.h>",
    "#include <stdlib.h>",
    ""]

def dependencyIncludes : Template :=
  [.choose
    (.compare .greater (.length (.path ["integral", "include_dependencies"]))
      (.literal (.integer 0)))
    (code ["", "/* Dependency includes */"] ++
      [.each "dependency" (.path ["integral", "include_dependencies"])
        (line [.text "#include \"", put ["dependency"], .text "\""]) []])
    []]

def integrandCall : Template :=
  [integrandName, .text "(",
    .each "i" (.range (.literal (.integer 0)) (.path ["integral", "n_dimensions"]))
      [.text "x[", put ["i"], .text "]", .choose (.negation (.path ["loop", "last"])) [.text ", "] []]
      [],
    .text ")"]

def boundsStruct : Template :=
  code ["typedef struct", "\x7b"] ++
  line [.text "    double lower[", dimensions, .text "];"] ++
  line [.text "    double upper[", dimensions, .text "];"] ++
  line [.text "\x7d ", boundsType, .text ";"]

end Quadrature.Templates
