import ClassAtlas.Failure
import ClassAtlas.Text.Search

/-!
The environment of the program: variables by name.
-/

namespace ClassAtlas

/-- Variables by name. Of several entries for a name the first counts. -/
abbrev Environment : Type := List (String × String)

namespace Environment

/-- Sets a variable. Neither a name nor a value can hold a null character, and a name cannot hold an
equals sign. -/
def set (environment : Environment) (name value : String) : Except Fault Environment :=
  let null := Char.ofNat 0
  if name.toList.contains null || value.toList.contains null then .error .nullCharacter
  else if name.toList.contains '=' then .error (.badValue "illegal environment variable name")
  else .ok ((name, value) :: environment.filter (·.1 != name))

/-- Sets several variables, up to the first that cannot be set. -/
def setAll (environment : Environment) : List (String × String) → Environment × Option Fault
  | [] => (environment, none)
  | (name, value) :: rest =>
    match environment.set name value with
    | .error fault => (environment, some fault)
    | .ok environment => setAll environment rest

/-- What the names of the variables of this program start with. -/
def ownStart : String := "REFLECTOR_"

/-- The environment without the variables of this program. -/
def withoutOwn (environment : Environment) : Environment :=
  environment.filter fun (name, _) => !Text.startsWith name ownStart

end Environment

end ClassAtlas
