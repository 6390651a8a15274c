import Libsocket.Library.InPlace
import Libsocket.Process

/-
  Looking up a value in a configuration file:
  `GetPrivateProfileString`. Each line is read into one
  buffer and taken apart there.

  Main declarations:
    * `isSpace`, `fgetsAll`
    * `iniLine`, `iniLoop`
    * `getPrivateProfileString`
-/

namespace Libsocket

------------------------------------------------------------
-- Characters And Lines
------------------------------------------------------------

/- `isspace` in the "C" locale -/
def isSpace (b : UInt8) : Bool :=
  b == 32 || decide (9 ≤ b.toNat ∧ b.toNat ≤ 13)

def newline : UInt8 := 10
def semicolon : UInt8 := 59
def hash : UInt8 := 35
def leftBracket : UInt8 := 91
def rightBracket : UInt8 := 93
def equals : UInt8 := 61

/- The size of the line buffer. -/
def iniBufSize : Nat := 256

/-
  What successive calls of `fgets` read from a text file,
  with `line` read already and room for `room` characters
  more. A read ends behind a newline, or when the buffer is
  full.
-/
def fgetsFrom (size : Nat) (line : Bytes) :
    Nat → Bytes → List Bytes
| _, [] => if line = [] then [] else [line]
| room, b :: bs =>
    if b = newline ∨ room ≤ 1 then
      (line ++ [b]) :: fgetsFrom size [] (size - 1) bs
    else
      fgetsFrom size (line ++ [b]) (room - 1) bs

def fgetsAll (size : Nat) (file : Bytes) : List Bytes :=
  fgetsFrom size [] (size - 1) file

/- The lines of a file, with their newlines. -/
def physicalLines (line : Bytes) : Bytes → List Bytes
| [] => if line = [] then [] else [line]
| b :: bs =>
    if b = newline then
      (line ++ [b]) :: physicalLines [] bs
    else
      physicalLines (line ++ [b]) bs

------------------------------------------------------------
-- The Look-Up
------------------------------------------------------------

/-
  Copy a string to a buffer, or as much of it as `size`
  allows. A copy that does not fit is undefined behaviour, as
  is a size of 0, for which the count of `strncpy` wraps
  around.
-/
def copyCut
    (dest : Bytes)
    (size : Nat)
    (text : Bytes) : Option Bytes :=
  if size < text.length + 1 then
    if size = 0 ∨ dest.length < size then
      none
    else
      some (overlay dest
        (CString.store (text.take (size - 1))))
  else if dest.length < text.length + 1 then
    none
  else
    some (overlay dest (CString.store text))

/- What the loop carries from line to line. -/
structure IniState where
  buf : Bytes
  inSection : Bool
  gotKey : Bool
  dest : Bytes
deriving DecidableEq, Repr

/-
  The part of a turn that takes a line apart at the equals
  sign, and stores the value if the key is the right one.
-/
def iniKey
    (keyname : Bytes)
    (destsize : Nat)
    (buf : Bytes)
    (line : Nat)
    (s : IniState) : Option IniState :=
  match CString.strchr buf line equals with
  | none => some { s with buf := buf }
  | some p =>
      let buf := buf.set p 0
      let p := p + 1
      let length := (CString.textAt buf line).length
      let buf := CString.trimBack isSpace buf (line + length)
      if keyname ≠ CString.textAt buf line then
        some { s with buf := buf }
      else
        let p := CString.skip isSpace buf p
        match copyCut s.dest destsize
            (CString.textAt buf p) with
        | none => none
        | some dest =>
            some { s with
              buf := buf
              gotKey := true
              dest := dest }

/- One turn of the loop, with the line that was read. -/
def iniLine
    (appname keyname : Bytes)
    (destsize : Nat)
    (read : Bytes)
    (s : IniState) : Option IniState :=
  let buf := overlay s.buf (CString.store read)
  let line := CString.skip isSpace buf 0
  if buf.getD line 0 = semicolon ∨ buf.getD line 0 = hash then
    some { s with buf := buf }
  else
    let length := (CString.textAt buf line).length
    let buf := CString.trimBack isSpace buf (line + length)
    let text := CString.textAt buf line
    if buf.getD line 0 = 0 then
      some { s with buf := buf }
    else if buf.getD line 0 = leftBracket ∧
        buf.getD (line + text.length - 1) 0 = rightBracket
    then
      let line := line + 1
      let length := (CString.textAt buf line).length
      let buf := buf.set (line + length - 1) 0
      some { s with
        buf := buf
        inSection :=
          decide (CString.textAt buf line = appname) }
    else if s.inSection = false then
      some { s with buf := buf }
    else
      iniKey keyname destsize buf line s

/- The loop ends after the turn that found the key. -/
def iniLoop
    (appname keyname : Bytes)
    (destsize : Nat) :
    List Bytes → IniState → Option IniState
| [], s => some s
| read :: reads, s =>
    if s.gotKey then
      some s
    else
      match iniLine appname keyname destsize read s with
      | none => none
      | some s => iniLoop appname keyname destsize reads s

/- The default value, or an empty string without one. -/
def iniDefault
    (deflt : Option Bytes)
    (dest : Bytes)
    (destsize : Nat) : Option Bytes :=
  match deflt with
  | some text => copyCut dest destsize text
  | none =>
      if dest = [] then none
      else some (overlay dest (CString.store []))

/-
  `GetPrivateProfileString`: what `dest` holds afterwards and
  the return value. `file` is what the file holds, if it can
  be opened, and `junk` what the line buffer holds at first.
-/
def getPrivateProfileString
    (junk : Fin iniBufSize → UInt8)
    (appname keyname deflt : Option Bytes)
    (dest : Bytes)
    (destsize : Nat)
    (file : Option Bytes) : Option (Bytes × Nat) :=
  match appname, keyname with
  | some appname, some keyname => do
      let dest ← iniDefault deflt dest destsize
      match file with
      | none => return (dest, 0)
      | some file => do
          let s ← iniLoop appname keyname destsize
            (fgetsAll iniBufSize file)
            ⟨List.ofFn junk, false, false, dest⟩
          let text ← CString.read? s.dest
          return (s.dest, text.length)
  | _, _ => some (dest, 0)

end Libsocket
