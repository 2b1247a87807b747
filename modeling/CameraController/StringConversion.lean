import CameraController.Gphoto

set_option autoImplicit false

namespace CameraController

namespace CameraStringConversion

def isSpace (c : Char) : Bool :=
  c == ' ' || c == '\t' || c == '\n' || c == '\u000b' || c == '\u000c' || c == '\r'

def digits (text : List Char) : List Char := text.takeWhile Char.isDigit

def decimal (text : List Char) : Nat := text.foldl (fun value c => 10 * value + (c.toNat - '0'.toNat)) 0

def signed : List Char → Bool × List Char
  | '-' :: rest => (true, rest)
  | '+' :: rest => (false, rest)
  | text => (false, text)

-- std::stoi: what follows the number is ignored.
def stoi (text : String) : Except NumericError Int :=
  let (negative, rest) := signed (text.toList.dropWhile isSpace)
  let number := digits rest
  let value : Int := if negative then -(decimal number : Int) else decimal number
  if number.isEmpty then .error .invalidArgument
  else if value < -2147483648 ∨ 2147483647 < value then .error .outOfRange
  else .ok value

-- substr(0, size() - 1), also for an empty text. Of a last character of several
-- bytes the code keeps all but one, and a number ends before them either way.
def withoutLast (text : String) : String := String.ofList text.toList.dropLast

-- What follows the first n bytes. A character cut in two stays whole: no number
-- begins with either.
def afterBytes : Nat → List Char → List Char
  | _, [] => []
  | n, c :: rest => if n < c.utf8Size then c :: rest else afterBytes (n - c.utf8Size) rest

-- substr(pos, size() - pos) throws out_of_range when pos is past the end.
def substr (text : String) (pos : Nat) : Except NumericError String :=
  if text.utf8ByteSize < pos then .error .outOfRange else .ok (String.ofList (afterBytes pos text.toList))

section Conversions

variable {C F : Type} (platform : Platform C F)

-- The clauses for invalid_argument and out_of_range, which both return -1.
def orMinusOne (parsed : Except NumericError Int) : Int :=
  match parsed with
  | .ok value => value
  | .error _ => -1

def shutterSpeedToInt (shutterSpeed : String) : Int :=
  if shutterSpeed = "Bulb" then 0
  else orMinusOne do
    let ss ← platform.stof (withoutLast shutterSpeed)
    pure (platform.toInt (platform.mul (platform.mul ss (platform.ofInt 1000)) (platform.ofInt 1000)))

def toString (value : F) (precision : Int) : String :=
  if precision ≥ 0 then platform.fixed precision value else platform.general value

def shutterSpeedToString (shutterSpeed : Int) : String :=
  if shutterSpeed = 0 then "Bulb"
  else toString platform (platform.div (platform.ofInt shutterSpeed) (platform.ofInt 1000000)) 4 ++ "s"

def apertureToInt (aperture : String) : Int :=
  orMinusOne do
    let ap ← platform.stof (← substr aperture 2)
    pure (platform.toInt (platform.mul ap (platform.ofInt 100)))

def apertureToString (aperture : Int) : String :=
  "f/" ++ toString platform (platform.div (platform.ofInt aperture) (platform.ofInt 100)) (-1)

def batteryLevelToInt (battery : String) : Int := orMinusOne (stoi (withoutLast battery))

end Conversions

example : stoi " -42mm" = .ok (-42) := by decide

example : stoi "Auto" = .error .invalidArgument := by decide

end CameraStringConversion

end CameraController
