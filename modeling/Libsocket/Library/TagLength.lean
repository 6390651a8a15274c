import Mathlib.Data.List.TakeWhile

/-
  Byte strings of elements, each a tag, the number of its
  data bytes and the data.

  Main declarations:
    * `TagLength.Element`, `TagLength.encode`
    * `TagLength.first`, `TagLength.before`
    * `TagLength.encode_eq`
-/

namespace TagLength

/- The length is written in one byte. -/
structure Element where
  tag : UInt8
  data : List UInt8
  fits : data.length < 256
deriving DecidableEq

def Element.bytes (e : Element) : List UInt8 :=
  e.tag :: UInt8.ofNat e.data.length :: e.data

def encode (es : List Element) : List UInt8 :=
  es.flatMap Element.bytes

/- The first element with a tag. -/
def first (tag : UInt8) (es : List Element) :
    Option Element :=
  es.find? fun e => e.tag == tag

/- The bytes of the elements in front of it. -/
def before (tag : UInt8) (es : List Element) : List UInt8 :=
  encode (es.takeWhile fun e => e.tag != tag)

/- The bytes of the elements behind it. -/
def behind (tag : UInt8) (es : List Element) : List UInt8 :=
  encode (es.dropWhile fun e => e.tag != tag).tail

@[simp] theorem length_bytes (e : Element) :
    e.bytes.length = e.data.length + 2 := rfl

/- The byte that holds the length gives it back. -/
theorem Element.toNat_length (e : Element) :
    (UInt8.ofNat e.data.length).toNat = e.data.length := by
  rw [UInt8.toNat_ofNat']
  exact Nat.mod_eq_of_lt e.fits

theorem first_tag
    {tag : UInt8}
    {es : List Element}
    {e : Element}
    (hFirst : first tag es = some e) :
    e.tag = tag := by
  have hTag := List.find?_some hFirst
  simpa using hTag

/- A string is taken apart at the first element with a tag. -/
theorem encode_eq
    {tag : UInt8}
    {es : List Element}
    {e : Element}
    (hFirst : first tag es = some e) :
    encode es = before tag es ++ e.bytes ++
      behind tag es := by
  induction es with
  | nil => simp [first] at hFirst
  | cons e₀ es ih =>
      by_cases hTag : e₀.tag = tag
      · have hHere : e₀ = e := by
          simpa [first, hTag] using hFirst
        subst hHere
        simp [encode, before, behind, hTag]
      · have hLater : first tag es = some e := by
          simpa [first, hTag] using hFirst
        have hRest := ih hLater
        simp only [encode, before, behind] at hRest ⊢
        rw [List.flatMap_cons, hRest]
        simp [hTag]

end TagLength
