import Mathlib.Tactic

/-! # The objects of a configuration (`libkern`)

The classes of libkern that the drivers read their configuration from.  `OSDynamicCast` is a
function to an option: null stays null, and an object of another class becomes null. -/

namespace VoodooPS2

/-- The characters of a C string before its terminating zero. -/
structure CString where
  chars : List UInt8
  no_nul : 0 ∉ chars
deriving DecidableEq

/-- The characters of a text as a C program has them. -/
def text (s : List Char) : List UInt8 := s.map Char.toUInt8

inductive OSObject where
  | string (s : CString)
  | number (n : UInt64)
  | boolean (b : Bool)
  | data (bytes : List UInt8)
  | array (objects : List OSObject)
  | dictionary (entries : List (CString × OSObject))

namespace OSObject

/-- `OSDynamicCast(OSString, o)`. -/
def asString : Option OSObject → Option CString
  | some (string s) => some s
  | _ => none

/-- `OSDynamicCast(OSNumber, o)`. -/
def asNumber : Option OSObject → Option UInt64
  | some (number n) => some n
  | _ => none

/-- `OSDynamicCast(OSArray, o)`. -/
def asArray : Option OSObject → Option (List OSObject)
  | some (array l) => some l
  | _ => none

/-- `OSDynamicCast(OSDictionary, o)`. -/
def asDictionary : Option OSObject → Option (List (CString × OSObject))
  | some (dictionary d) => some d
  | _ => none

end OSObject

end VoodooPS2
