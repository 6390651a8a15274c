import Libsocket.Inet.Expand
import Libsocket.Library.Turns

/-
  The answer of a name server: `getanswer` goes through the
  records of a packet and collects the names and addresses of
  a host in one buffer.

  Main declarations:
    * `AnswerCall`, `AnswerState`
    * `answerTurn`, `getanswer`
    * `AnswerCall.turns`, `AnswerCall.goes`
-/

namespace Libsocket

------------------------------------------------------------
-- Records
------------------------------------------------------------

/- `T_A`, `T_CNAME` and `T_PTR` -/
def tA : Nat := 1
def tCname : Nat := 5
def tPtr : Nat := 12

/- `C_IN` -/
def cIn : Nat := 1

/- `AF_UNSPEC` -/
def afUnspec : Int := 0

/- `TRY_AGAIN` and `NO_RECOVERY` -/
def tryAgain : Nat := 2
def noRecovery : Nat := 3

/- `HFIXEDSZ` and `QFIXEDSZ` -/
def hfixedsz : Nat := 12
def qfixedsz : Nat := 4

/- `MAXDNAME` -/
def maxDname : Nat := 1025

/- `MAXADDRS` -/
def maxAddrs : Nat := 35

/- The size of `hostbuf`, and of `align`. -/
def hostbufSize : Nat := bufsiz + 1
def alignSize : Nat := 4

/- What stands behind the name of a record. -/
structure Rr where
  type : Nat
  cls : Nat
  length : Nat
  data : Nat
deriving DecidableEq, Repr

def rrAt (p : Packet) (cp : Nat) : Rr where
  type := p.getshort cp
  cls := p.getshort (cp + 2)
  length := p.getshort (cp + 8)
  data := cp + 10

/- The data of a record -/
def Rr.bytes (rr : Rr) (p : Packet) : Bytes :=
  (List.range rr.length).map fun i => p.buf (rr.data + i)

/-
  Where a name or an address comes from: the question, the
  record that starts there, or an earlier call.
-/
inductive Origin
  | question
  | record (start : Nat)
  | earlier
deriving DecidableEq, Repr

------------------------------------------------------------
-- The Call
------------------------------------------------------------

/- The two types that the library asks for. -/
inductive QueryType
  | a
  | ptr
deriving DecidableEq, Repr

def QueryType.number : QueryType → Nat
| a => tA
| ptr => tPtr

/-
  The packet and the query, the address of `hostbuf`, and
  what an earlier call left in the arrays and in `host`.
-/
structure AnswerCall where
  packet : Packet
  qname : Bytes
  qclass : Nat
  qtype : QueryType
  hostbuf : Nat
  oldAliases : List (Option Bytes)
  oldAddrs : List (Option Bytes)
  oldLength : Nat
  oldAddrtype : Int

/-
  What the loop carries: the cursor in the packet, the index
  and the room in `hostbuf`, and `host` with its arrays.
-/
structure AnswerState where
  cp : Nat
  bp : Nat
  buflen : Int
  hName : Option (Origin × Bytes)
  hAddrtype : Int
  hLength : Nat
  aliases : List Bytes
  addrs : List (Origin × Bytes)
  haveanswer : Nat
  hadError : Bool

/- The entry of the host that is returned. -/
structure AnswerHost where
  name : Origin × Bytes
  aliases : List Bytes
  addrtype : Int
  length : Nat
  addrs : List (Origin × Bytes)
deriving DecidableEq

/-
  A `NULL` leaves a number in `h_errno`. An overrun is a
  string that is stored behind `hostbuf`.
-/
inductive AnswerResult
  | null (hErrno : Nat)
  | host (h : AnswerHost)
  | abort
  | overrun
deriving DecidableEq

/- The next turn, or the end of the function. -/
abbrev AnswerTurn : Type := AnswerState ⊕ AnswerResult

------------------------------------------------------------
-- What Is Returned
------------------------------------------------------------

/- The entries of an array that has not been ended. -/
def leftOver (old : List (Option Bytes)) (k : Nat) :
    List Bytes :=
  if k = 0 then
    []
  else
    ((old.drop k).takeWhile Option.isSome).filterMap id

/- `host`; only at its end the function ends the arrays. -/
def hostOf
    (q : AnswerCall)
    (ended : Bool)
    (name : Origin × Bytes)
    (s : AnswerState) : AnswerHost where
  name := name
  aliases := s.aliases ++
    if ended then [] else leftOver q.oldAliases s.aliases.length
  addrtype := s.hAddrtype
  length := s.hLength
  addrs := s.addrs ++
    if ended then []
    else (leftOver q.oldAddrs s.addrs.length).map fun a =>
      (Origin.earlier, a)

/- Behind the loop -/
def answerFinish
    (q : AnswerCall)
    (s : AnswerState) : AnswerResult :=
  if s.haveanswer ≠ 0 then
    match s.hName with
    | some name => .host (hostOf q true name s)
    | none =>
        if hostbufSize < s.bp + (q.qname.length + 1) then
          .overrun
        else
          .host (hostOf q true (.question, q.qname) s)
  else
    .null tryAgain

------------------------------------------------------------
-- One Record
------------------------------------------------------------

/- Past the record. -/
def AnswerState.skip (s : AnswerState) (rr : Rr) :
    AnswerState :=
  { s with cp := rr.data + rr.length }

def AnswerState.fail (s : AnswerState) (cp : Nat) :
    AnswerState :=
  { s with cp := cp, hadError := true }

/- A string at `bp` that is kept. -/
def AnswerState.keep (s : AnswerState) (name : Bytes) :
    AnswerState :=
  { s with
    bp := s.bp + (name.length + 1)
    buflen := s.buflen - (name.length + 1 : Nat) }

/- The canonical name is copied from `tbuf`. -/
def storeTarget
    (tbuf : Bytes)
    (hName : Option (Origin × Bytes))
    (s : AnswerState) : AnswerTurn :=
  if s.buflen < (tbuf.length + 1 : Nat) then
    .inl { s with hadError := true }
  else if hostbufSize < s.bp + (tbuf.length + 1) then
    .inr .overrun
  else
    .inl { s.keep tbuf with hName := hName }

/-
  A `CNAME` record. In the query for an address its owner is
  stored as an alias and the target becomes the name; with no
  room for an alias the cursor stays at the data.
-/
def cnameRecord
    (q : AnswerCall)
    (start : Nat)
    (name : Bytes)
    (rr : Rr)
    (s : AnswerState) : AnswerTurn :=
  let target := dnExpand q.packet rr.data (maxDname + 1 : Nat)
  match q.qtype with
  | .a =>
      if maxAliases - 1 ≤ s.aliases.length then
        .inl { s with cp := rr.data }
      else
        match target.result with
        | none => .inl (s.fail rr.data)
        | some (tbuf, n) =>
            storeTarget tbuf (some (.record start, tbuf))
              { s.keep name with
                cp := rr.data + n
                aliases := s.aliases ++ [name] }
  | .ptr =>
      match target.result with
      | none => .inl (s.fail rr.data)
      | some (tbuf, n) =>
          storeTarget tbuf s.hName
            { s with cp := rr.data + n }

/- A `PTR` record -/
def ptrRecord
    (q : AnswerCall)
    (start : Nat)
    (rr : Rr)
    (s : AnswerState) : AnswerTurn :=
  let target := dnExpand q.packet rr.data s.buflen
  if hostbufSize < s.bp + target.written then
    .inr .overrun
  else
    match target.result with
    | none => .inl (s.fail rr.data)
    | some (name, _) =>
        .inr (.host (hostOf q false (.record start, name) s))

/- The owner of the first address becomes the name. -/
def AnswerState.named
    (s : AnswerState)
    (start : Nat)
    (name : Bytes)
    (rr : Rr) : AnswerState :=
  { s.keep name with
    hLength := rr.length
    hAddrtype := if rr.cls = cIn then afInet else afUnspec
    hName := some (.record start, name) }

/-
  The address is copied to `bp`, which is aligned without a
  look at `buflen`.
-/
def storeAddress
    (q : AnswerCall)
    (start : Nat)
    (rr : Rr)
    (s : AnswerState) : AnswerTurn :=
  let bp := s.bp +
    (alignSize - (q.hostbuf + s.bp) % alignSize)
  if hostbufSize ≤ bp + rr.length then
    .inl { s.fail rr.data with bp := bp }
  else if maxAddrs - 1 ≤ s.addrs.length then
    .inl { s.skip rr with bp := bp }
  else
    .inl { s.skip rr with
      bp := bp + rr.length
      addrs := s.addrs ++ [(.record start, rr.bytes q.packet)]
      haveanswer := s.haveanswer + 1 }

/- An `A` record -/
def aRecord
    (q : AnswerCall)
    (start : Nat)
    (name : Bytes)
    (rr : Rr)
    (s : AnswerState) : AnswerTurn :=
  if s.haveanswer ≠ 0 ∧ rr.length ≠ s.hLength then
    .inl (s.skip rr)
  else
    storeAddress q start rr
      (if s.haveanswer ≠ 0 then s else s.named start name rr)

/- What is done for a record with this owner. -/
def answerRecord
    (q : AnswerCall)
    (start : Nat)
    (name : Bytes)
    (rr : Rr)
    (s : AnswerState) : AnswerTurn :=
  if rr.cls ≠ q.qclass then
    .inl (s.skip rr)
  else if rr.type = tCname then
    cnameRecord q start name rr s
  else if rr.type = tPtr then
    ptrRecord q start rr s
  else if rr.type = tA then
    aRecord q start name rr s
  else
    .inr .abort

------------------------------------------------------------
-- The Loop
------------------------------------------------------------

/- The owner of the record at the cursor is put at `bp`. -/
def answerTurn
    (q : AnswerCall)
    (s : AnswerState) : AnswerTurn :=
  let owner := dnExpand q.packet s.cp s.buflen
  if hostbufSize < s.bp + owner.written then
    .inr .overrun
  else
    match owner.result with
    | none => .inl (s.fail s.cp)
    | some (name, n) =>
        answerRecord q s.cp name (rrAt q.packet (s.cp + n)) s

def answerLoop (q : AnswerCall) :
    Turns.Loop AnswerState AnswerResult where
  stop := fun s => decide (q.packet.anslen ≤ s.cp) || s.hadError
  turn := answerTurn q
  finish := answerFinish q

namespace AnswerCall

variable (q : AnswerCall)

/- The fields of the header -/
def qdcount : Nat := q.packet.getshort 4
def ancount : Nat := q.packet.getshort 6

/- The name in the question and its length in the packet. -/
def question : Expanded :=
  dnExpand q.packet hfixedsz hostbufSize

/- What is done up to the loop. -/
def begin : AnswerTurn :=
  if q.qdcount ≠ 1 then
    .inr (.null noRecovery)
  else if hostbufSize < q.question.written then
    .inr .overrun
  else
    match q.question.result with
    | none => .inr (.null noRecovery)
    | some (name, n) =>
        let s : AnswerState := {
          cp := hfixedsz + (n + qfixedsz)
          bp := 0
          buflen := hostbufSize
          hName := none
          hAddrtype := q.oldAddrtype
          hLength := q.oldLength
          aliases := []
          addrs := []
          haveanswer := 0
          hadError := false }
        match q.qtype with
        | .a =>
            .inl { s.keep name with
              hName := some (.question, name) }
        | .ptr => .inl s

end AnswerCall

/- `getanswer` -/
def getanswer (q : AnswerCall) : AnswerResult :=
  match q.begin with
  | .inr r => r
  | .inl s => Turns.run (answerLoop q) q.ancount s

/- The states at the start of the turns. -/
def AnswerCall.turns (q : AnswerCall) : List AnswerState :=
  match q.begin with
  | .inr _ => []
  | .inl s => Turns.reached (answerLoop q) q.ancount s

theorem AnswerCall.goes
    {q : AnswerCall}
    {s : AnswerState}
    (hBegin : q.begin = .inl s) :
    Turns.Goes (answerLoop q) s q.turns (getanswer q) := by
  unfold AnswerCall.turns getanswer
  rw [hBegin]
  exact Turns.goes_run _ _ _

end Libsocket
