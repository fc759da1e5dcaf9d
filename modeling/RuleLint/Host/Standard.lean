/-
RuleLint/Host/Standard.lean

The host that the program is run with.  Sets are gone through in ascending order if
their members have one; sources may be encoded in UTF-8, ASCII or Latin-1.
-/
import RuleLint.Host.Library

namespace RuleLint.Standard

/-! ### Sets -/

/-- Whether a value may stand before another one. -/
def mayPrecede (a b : Value) : Bool :=
  match Value.lt b a with
  | .ok less => !less
  | .error _ => true

/-- Values in ascending order, or as they are if some have none between them. -/
def ascending (vs : List Value) : List Value :=
  if (sortOn Value.lt vs).toBool then vs.mergeSort mayPrecede else vs

theorem ascending_perm (vs : List Value) : (ascending vs).Perm vs := by
  unfold ascending
  split
  · exact List.mergeSort_perm vs mayPrecede
  · exact List.Perm.refl vs

/-! ### Encodings -/

/-- Names of UTF-8. -/
def utf8Names : List String :=
  ["utf_8", "utf8", "utf", "u8", "cp65001"]

/-- Names of ASCII. -/
def asciiNames : List String :=
  ["ascii", "us_ascii", "us", "646", "iso646_us", "ansi_x3.4_1968"]

/-- Names of Latin-1. -/
def latinNames : List String :=
  ["latin_1", "latin1", "latin", "l1", "8859", "cp819", "iso8859",
    "iso8859_1", "iso_8859_1",
   "ibm819"]

/-- The name of an encoding as it is looked up. -/
def lookedUp (encoding : String) : String :=
  String.ofList (encoding.toList.map fun c => if c == '-' then '_' else c.toLower)

/-- The text that bytes stand for in an encoding. -/
def decode (encoding : String) (bs : List UInt8) : Option (List Char) :=
  let name := lookedUp encoding
  if utf8Names.contains name then (Text.decodeUtf8 bs).toOption
  else if latinNames.contains name then some (bs.map fun b => Char.ofNat b.toNat)
  else if asciiNames.contains name ∧ bs.all (· < 128) = true then
    some (bs.map fun b => Char.ofNat b.toNat)
  else none

/-- The host of the program. -/
scoped instance host : Host where
  named := Library.named
  named_loadable := Library.loadable_of_named
  order arrived gone := ascending (arrived.filter fun v => !gone.any (Value.same · v))
  order_perm _ _ := ascending_perm _
  decode := decode
  depth := 960
  depth_ge := by decide

end RuleLint.Standard
