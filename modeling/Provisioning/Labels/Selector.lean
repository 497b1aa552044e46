import Provisioning.Labels.Basic
import Provisioning.Text.Pieces

/-!
# Label selectors

The text in which labels are asked for, `k1=v1,k2=v2` with the keys in order, and its reading as a
list of demands, which can ask for more than labels with their values: `k!=v` for another value
or none, `k` for a label of any value, and `!k` for the lack of one.
-/

namespace Provisioning.Labels

def requirementText (entry : String × String) : String :=
  entry.1 ++ "=" ++ entry.2

def selector (labels : Labels) : String :=
  ",".intercalate (labels.entries.map requirementText)

/-- What a selector can require of the labels of an object. -/
inductive Demand where
  | equals (key value : String)
  | differs (key value : String)
  | present (key : String)
  | absent (key : String)
  deriving DecidableEq, Repr

/-- Whether an object with these labels meets a demand. -/
def Demand.holds (actual : Labels) : Demand → Bool
  | .equals key value => actual.get? key == some value
  | .differs key value => actual.get? key != some value
  | .present key => (actual.get? key).isSome
  | .absent key => (actual.get? key).isNone

/-- One demand: a key up to the first equals sign and the value behind it, which a second equals
sign does not belong to, or a key alone. -/
def readDemand (piece : List Char) : Demand :=
  let key := piece.takeWhile (· ≠ '=')
  match piece.dropWhile (· ≠ '=') with
  | _ :: value =>
      if key.getLast? = some '!' then .differs (String.ofList key.dropLast) (String.ofList value)
      else if value.head? = some '=' then .equals (String.ofList key) (String.ofList value.tail)
      else .equals (String.ofList key) (String.ofList value)
  | [] =>
      if key.head? = some '!' then .absent (String.ofList key.tail)
      else .present (String.ofList key)

/-- The demands that a selector lists; an empty one lists none. -/
def readSelector (text : String) : List Demand :=
  if text.toList.isEmpty then [] else (Text.pieces ',' text.toList).map readDemand

/-- Whether a selector selects objects with these labels. -/
def selectedBy (text : String) (actual : Labels) : Bool :=
  (readSelector text).all (·.holds actual)

end Provisioning.Labels
