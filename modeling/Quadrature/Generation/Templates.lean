import Quadrature.Failure
import Quadrature.Generation.Templates.Gsl
import Quadrature.Generation.Templates.Header
import Quadrature.Generation.Templates.OpenCl
import Quadrature.Template.Reader
import Quadrature.Template.Render

/-!
The set of code templates. Each of the four can be replaced by a file of a directory.
-/

namespace Quadrature

inductive TemplateName where
  | header
  | gslSource
  | kernel
  | openClSource
deriving DecidableEq, Repr

namespace TemplateName

def text : TemplateName → String
  | .header => "integral.h"
  | .gslSource => "gsl_monte_carlo.c"
  | .kernel => "opencl_kernel.cl"
  | .openClSource => "opencl_monte_carlo.c"

def all : List TemplateName := [.header, .gslSource, .kernel, .openClSource]

def ofText? (s : String) : Option TemplateName := all.find? (·.text = s)

end TemplateName

structure TemplateSet where
  header : Template
  gslSource : Template
  kernel : Template
  openClSource : Template

namespace TemplateSet

def builtin : TemplateSet where
  header := Templates.header
  gslSource := Templates.gslSource
  kernel := Templates.kernel
  openClSource := Templates.openClSource

def get (s : TemplateSet) : TemplateName → Template
  | .header => s.header
  | .gslSource => s.gslSource
  | .kernel => s.kernel
  | .openClSource => s.openClSource

def set (s : TemplateSet) (t : Template) : TemplateName → TemplateSet
  | .header => { s with header := t }
  | .gslSource => { s with gslSource := t }
  | .kernel => { s with kernel := t }
  | .openClSource => { s with openClSource := t }

def override (files : Store) (directory : String) (s : TemplateSet) (name : TemplateName) :
    Except Failure TemplateSet :=
  let path := Path.join directory (name.text ++ ".tera")
  if files.isFile path then
    match files.readText path with
    | .error e => .error (.io e)
    | .ok source =>
      match Template.read? source with
      | none => .error (.templateParse name.text)
      | some t => .ok (s.set t name)
  else .ok s

def overrideEach (files : Store) (directory : String) :
    TemplateSet → List TemplateName → Except Failure TemplateSet
  | s, [] => .ok s
  | s, name :: names =>
    match s.override files directory name with
    | .error f => .error f
    | .ok t => overrideEach files directory t names

def withOverrides (files : Store) (directory : String) : Except Failure TemplateSet :=
  overrideEach files directory builtin TemplateName.all

def load (files : Store) : Option String → Except Failure TemplateSet
  | some directory => withOverrides files directory
  | none => .ok builtin

def render (s : TemplateSet) (name : TemplateName) (context : Template.Scope) :
    Except Failure String :=
  match (s.get name).render context with
  | some text => .ok text
  | none => .error (.templateRender name.text)

def renderNamed (s : TemplateSet) (name : String) (context : Template.Scope) :
    Except Failure String :=
  match TemplateName.ofText? name with
  | some n => s.render n context
  | none => .error (.templateMissing name)

end TemplateSet

end Quadrature
