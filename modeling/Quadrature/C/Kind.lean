/-!
The kinds of C types and their names.
-/

namespace Quadrature.C

inductive Kind where
  | invalid | unexposed | void | bool | charU | uChar | char16 | char32 | uShort | uInt | uLong
  | uLongLong | uInt128 | charS | sChar | wChar | short | int | long | longLong | int128 | float
  | double | longDouble | nullPtr | pointer | record | enumeration | typedef | constantArray
  | incompleteArray | functionProto | functionNoProto
  deriving DecidableEq, Repr, Inhabited

namespace Kind

def all : List Kind :=
  [invalid, unexposed, void, bool, charU, uChar, char16, char32, uShort, uInt, uLong, uLongLong,
    uInt128, charS, sChar, wChar, short, int, long, longLong, int128, float, double, longDouble,
    nullPtr, pointer, record, enumeration, typedef, constantArray, incompleteArray, functionProto,
    functionNoProto]

def name : Kind → String
  | invalid => "Invalid"
  | unexposed => "Unexposed"
  | void => "Void"
  | bool => "Bool"
  | charU => "Char_U"
  | uChar => "UChar"
  | char16 => "Char16"
  | char32 => "Char32"
  | uShort => "UShort"
  | uInt => "UInt"
  | uLong => "ULong"
  | uLongLong => "ULongLong"
  | uInt128 => "UInt128"
  | charS => "Char_S"
  | sChar => "SChar"
  | wChar => "WChar"
  | short => "Short"
  | int => "Int"
  | long => "Long"
  | longLong => "LongLong"
  | int128 => "Int128"
  | float => "Float"
  | double => "Double"
  | longDouble => "LongDouble"
  | nullPtr => "NullPtr"
  | pointer => "Pointer"
  | record => "Record"
  | enumeration => "Enum"
  | typedef => "Typedef"
  | constantArray => "ConstantArray"
  | incompleteArray => "IncompleteArray"
  | functionProto => "FunctionProto"
  | functionNoProto => "FunctionNoProto"

def ofName? (s : String) : Option Kind :=
  all.find? (fun k => k.name == s)

def isFunction : Kind → Bool
  | functionProto | functionNoProto => true
  | _ => false

def isArray : Kind → Bool
  | constantArray | incompleteArray => true
  | _ => false

/-- How C spells a kind. Kinds without a spelling of their own are written as the lower-case name of
the kind, and the invalid kind as nothing. -/
def spelled : Kind → String
  | invalid => ""
  | unexposed => "unexposed"
  | void => "void"
  | bool => "bool"
  | charU | uChar => "unsigned char"
  | char16 => "char16_t"
  | char32 => "char32_t"
  | uShort => "unsigned short"
  | uInt => "unsigned int"
  | uLong => "unsigned long"
  | uLongLong => "unsigned long long"
  | uInt128 => "uint128_t"
  | charS | sChar => "char"
  | wChar => "wchar_t"
  | short => "short"
  | int => "int"
  | long => "long"
  | longLong => "long long"
  | int128 => "int128_t"
  | float => "float"
  | double => "double"
  | longDouble => "long double"
  | nullPtr => "void *"
  | pointer => "pointer"
  | record => "record"
  | enumeration => "enum"
  | typedef => "typedef"
  | constantArray => "constantarray"
  | incompleteArray => "incompletearray"
  | functionProto => "functionproto"
  | functionNoProto => "functionnoproto"

end Kind

end Quadrature.C
