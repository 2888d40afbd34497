namespace CompositeObjects.Text

/-- Single controls that a terminal takes for orders: bell, backspace, form feed, escape, delete. -/
def orderControls : List (Char × String) := [
  ('\x07', "\\x07"), ('\x08', "\\x08"), ('\x0c', "\\x0c"), ('\x1b', "\\x1b"), ('\x7f', "\\x7f")]

/-- Whether the character is of the block of controls whose every member is an order. -/
def isHighControl (c : Char) : Bool := 0x80 ≤ c.toNat && c.toNat ≤ 0x9f

/-- A control that a terminal would obey is written by its number, all else stands for itself. -/
def disarmedChar (c : Char) : List Char :=
  match orderControls.lookup c with
  | some code => code.toList
  | none =>
    if isHighControl c then '\\' :: 'u' :: '\x7b' :: Nat.toDigits 16 c.toNat ++ ['\x7d'] else [c]

/-- A text that changes nothing on a terminal but what is written there. -/
def disarmed (s : String) : String := String.ofList (s.toList.flatMap disarmedChar)

end CompositeObjects.Text
