import FlatSheet.Text.Cut

/-! # The built-in functions

Nine functions may be written in a formula. Each has a name in capitals, an arity and a one-line
description. A name is looked up without regard to the case of its letters or to blanks around it.
-/

namespace FlatSheet

/-- How many operands a function takes: any number of them, exactly two, or a condition and its two
branches. -/
inductive Arity
  | variadic
  | binary
  | conditional
  deriving DecidableEq, Repr

/-- A function that a formula may name. -/
inductive Builtin
  | sum
  | avg
  | stdev
  | max
  | min
  | count
  | ifElse
  | mod
  | pow
  deriving DecidableEq, Repr

namespace Builtin

/-- Every function once, in the order in which they are listed to the user. -/
def all : List Builtin := [.sum, .avg, .stdev, .max, .min, .count, .ifElse, .mod, .pow]

/-- The name in a formula. -/
def name : Builtin → Text
  | .sum => "SUM".toList
  | .avg => "AVG".toList
  | .stdev => "STDEV".toList
  | .max => "MAX".toList
  | .min => "MIN".toList
  | .count => "COUNT".toList
  | .ifElse => "IF".toList
  | .mod => "MOD".toList
  | .pow => "POW".toList

/-- How many operands the function takes. -/
def arity : Builtin → Arity
  | .sum | .avg | .stdev | .count => .variadic
  | .max | .min | .mod | .pow => .binary
  | .ifElse => .conditional

/-- Only one function takes a condition and its branches. -/
theorem eq_ifElse_of_arity {function : Builtin} (conditional : function.arity = .conditional) :
    function = .ifElse := by
  cases function <;> first | rfl | contradiction

/-- What the function computes, in one line for the user. -/
def description : Builtin → Text
  | .sum => "Sum of the arguments, 0 when empty".toList
  | .avg => "Arithmetic mean of the arguments".toList
  | .stdev => "Population standard deviation, divided by the buffer length".toList
  | .max => "Larger of two values".toList
  | .min => "Smaller of two values".toList
  | .count => "Number of arguments".toList
  | .ifElse => "True or false branch depending on a reference comparison".toList
  | .mod => "Remainder of a divided by b".toList
  | .pow => "a raised to the power b".toList

/-- The function with a name, in any case and with blanks around it. -/
def named? (text : Text) : Option Builtin :=
  let capitals := text.trim.upper
  all.find? fun function => function.name == capitals

/-- Looking up the name of a function gives that function, so no two share a name. -/
theorem named?_name (function : Builtin) : named? function.name = some function := by
  cases function <;> rfl

end Builtin

end FlatSheet
