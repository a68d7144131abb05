/-!
The words of C with a meaning of their own. A word is a keyword only at the places where the grammar
has a use for it; everywhere else it is an identifier.
-/

namespace Quadrature.C.Word

def storage : List String :=
  ["extern", "static", "auto", "register", "inline", "__inline", "__inline__", "__forceinline",
    "thread_local", "__thread"]

def qualifiers : List String :=
  ["const", "constexpr", "volatile", "restrict", "__restrict__", "__extension__", "_Atomic",
    "_Noreturn", "noreturn"]

def alignments : List String := ["alignas", "_Alignas"]

def attributes : List String := ["__attribute__", "__attribute"]

def declspec : String := "__declspec"

def modifiers : List String :=
  storage ++ qualifiers ++ alignments ++ attributes ++ [declspec]

def callModifiers : List String :=
  ["__cdecl", "__clrcall", "__stdcall", "__fastcall", "__thiscall", "__vectorcall"]

def pointerModifiers : List String :=
  ["_unaligned", "__unaligned", "__restrict", "__uptr", "__sptr"]

def sizes : List String := ["signed", "unsigned", "long", "short"]

def primitives : List String :=
  ["bool", "char", "int", "float", "double", "void", "size_t", "ssize_t", "ptrdiff_t", "intptr_t",
    "uintptr_t", "charptr_t", "nullptr_t", "max_align_t", "int8_t", "int16_t", "int32_t",
    "int64_t", "uint8_t", "uint16_t", "uint32_t", "uint64_t", "char8_t", "char16_t", "char32_t",
    "char64_t"]

def tags : List String := ["struct", "union", "enum"]

def types : List String := tags ++ sizes ++ primitives

def statements : List String :=
  ["if", "switch", "case", "default", "while", "do", "for", "return", "break", "continue", "goto"]

def blockStatements : List String := ["__try", "__leave"]

def sizeOf : String := "sizeof"

def alignOf : List String := ["__alignof__", "__alignof", "_alignof", "alignof", "_Alignof"]

def assembly : List String := ["asm", "__asm__", "__asm"]

def assemblyQualifiers : List String := ["volatile", "__volatile__", "inline", "goto"]

def constants : List String := ["TRUE", "true", "FALSE", "false", "NULL", "nullptr"]

def operands : List String :=
  [sizeOf, "offsetof", "_Generic"] ++ alignOf ++ assembly ++ constants

def isTypeName (w : String) : Bool :=
  !modifiers.contains w && !types.contains w

end Quadrature.C.Word
