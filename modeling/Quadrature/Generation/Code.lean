import Quadrature.Generation.Backend
import Quadrature.Generation.Options
import Quadrature.Generation.Templates
import Quadrature.Integral

/-!
Generation of the header and the source of an integral.
-/

namespace Quadrature

structure GeneratedCode where
  header : String
  source : String
deriving DecidableEq, Repr

namespace Generation

def integralData (i : Integral) : Json :=
  .object [
    ("name", .text i.name),
    ("return_type", .text i.returnType),
    ("signature", .text i.signature),
    ("signature_with_defaults", .text i.signatureWithDefaults),
    ("argument_types", .texts i.declaration.argumentTypes),
    ("argument_names", .texts i.declaration.argumentNames),
    ("n_dimensions", .natural i.dimensions),
    ("lower_bounds", .texts i.lowerBounds),
    ("upper_bounds", .texts i.upperBounds),
    ("include_dependencies", .texts i.dependencies),
    ("integrand", .object [
      ("name", .text i.integrand.name),
      ("return_type", .text i.integrand.returnType),
      ("argument_types", .texts i.integrand.argumentTypes),
      ("signature", .text i.integrand.signature)])]

def baseContext (i : Integral) (o : GenerationOptions) : Template.Scope :=
  [("integral", integralData i),
    ("header_include_name", .text o.headerName),
    ("include_guard", .text o.guard),
    ("n_calls", .natural o.calls),
    ("banner", .text (o.banner.getD ""))]

def checkDimensions (i : Integral) : Except Failure Unit :=
  if i.dimensions = 0 then .error (.noArguments i.integrand.name) else .ok ()

def warmupCalls : Nat := 10000

def gslContext (i : Integral) (o : GenerationOptions) (a : GslAlgorithm) : Template.Scope :=
  baseContext i o ++ [("algorithm", .text a.name), ("vegas_warmup_calls", .natural warmupCalls)]

def gslCode (templates : TemplateSet) (i : Integral) (o : GenerationOptions) (a : GslAlgorithm) :
    Except Failure GeneratedCode := do
  checkDimensions i
  let context := gslContext i o a
  let header ← templates.render .header context
  let source ← templates.render .gslSource context
  return { header, source }

def workItems : Nat := 1024

def literalChar (c : Char) : List Char :=
  if c = '\\' then ['\\', '\\'] else if c = '"' then ['\\', '"'] else [c]

def literalLine (line : List Char) : String :=
  String.ofList ((Text.chomp line).flatMap literalChar ++ ['\\', 'n'])

def literalLines (program : String) : List String :=
  (Text.lines program.toList).map literalLine

def definitionText (files : Store) (integrand : FunctionDeclaration) : Except Failure String :=
  match integrand.text? files with
  | some text =>
    if integrand.hasBody files then .ok text else .error (.noDefinition integrand.name)
  | none => .error (.noDefinition integrand.name)

def openClContext (i : Integral) (o : GenerationOptions) (text : String) : Template.Scope :=
  baseContext i o ++
    [("integrand_text", .text text),
      ("bounds_type", .text (Identifier.pascalCase i.name ++ "Bounds")),
      ("kernel_name", .text (i.name ++ "_kernel")),
      ("work_items", .natural workItems)]

def openClCode (templates : TemplateSet) (files : Store) (i : Integral) (o : GenerationOptions) :
    Except Failure GeneratedCode := do
  let text ← definitionText files i.integrand
  checkDimensions i
  let context := openClContext i o text
  let program ← templates.render .kernel context
  let context := context ++ [("program_lines", .texts (literalLines program))]
  let header ← templates.render .header context
  let source ← templates.render .openClSource context
  return { header, source }

end Generation

def generateCode (templates : TemplateSet) (files : Store) (backend : Backend) (i : Integral)
    (o : GenerationOptions) : Except Failure GeneratedCode :=
  match backend with
  | .gsl a => Generation.gslCode templates i o a
  | .openCl => Generation.openClCode templates files i o

end Quadrature
