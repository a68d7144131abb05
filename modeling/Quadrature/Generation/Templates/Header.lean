import Quadrature.Generation.Templates.Parts

/-!
The header of an integral. C++ sees the error argument with its default.
-/

namespace Quadrature.Templates

open Template

def guard : Segment := put ["include_guard"]

def header : Template :=
  bannerComment ++
  line [.text "#ifndef ", guard] ++
  line [.text "#define ", guard] ++
  code ["", "#ifdef __cplusplus", "extern \"C\" \x7b"] ++
  line [put ["integral", "signature_with_defaults"], .text ";"] ++
  code ["\x7d", "#else"] ++
  line [signature, .text ";"] ++
  code ["#endif", ""] ++
  line [.text "#endif /* ", guard, .text " */"]

end Quadrature.Templates
