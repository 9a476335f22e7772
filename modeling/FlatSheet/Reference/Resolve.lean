import FlatSheet.Fault

/-! # Resolving references and names

A formula that names no function, or no cell, is refused with the text that was written there.
-/

namespace FlatSheet

/-- The reference that a text is. -/
def Reference.resolve (text : Text) : Except Fault Reference :=
  match Reference.parse? text with
  | some reference => .ok reference
  | none => .error (.invalidReference text)

/-- The function that a text names. -/
def Builtin.lookup (text : Text) : Except Fault Builtin :=
  match Builtin.named? text with
  | some function => .ok function
  | none => .error (.unknownFunction text)

end FlatSheet
