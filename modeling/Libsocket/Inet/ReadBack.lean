import Libsocket.Inet.Numbers

/-
  Files of hosts, services and networks: when each line is
  read back as its entry, once and in order.

  Main declarations:
    * `allEntries`
    * `LineFormat`
    * `FileLine`, `fileText`
    * `ReadsBack`, `FileClean`
    * `lines_read_back_iff`
    * `last_line_missed`
-/

namespace Libsocket

------------------------------------------------------------
-- Reading A File
------------------------------------------------------------

section Reading

variable {ε : Type} {parse : Bytes → Option ε}

/- A turn that gives an entry ends the loop. -/
theorem readEntry_of_turn
    {s rest : Bytes}
    {entry : ε}
    (hSome : s ≠ [])
    (hTurn : dbTurn parse s = (some entry, rest)) :
    readEntry parse s = (some entry, rest) := by
  cases s with
  | nil => exact absurd rfl hSome
  | cons b s =>
      rw [readEntry, hTurn]

/- Any other turn goes on with what is left. -/
theorem readEntry_of_skip
    {s rest : Bytes}
    (hSome : s ≠ [])
    (hTurn : dbTurn parse s = (none, rest)) :
    readEntry parse s = readEntry parse rest := by
  cases s with
  | nil => exact absurd rfl hSome
  | cons b s =>
      rw [readEntry, hTurn]

theorem readEntry_shorter
    {s rest : Bytes}
    {entry : ε}
    (hRead : readEntry parse s = (some entry, rest)) :
    rest.length < s.length := by
  induction hLength : s.length using Nat.strong_induction_on
    generalizing s with
  | _ n ih =>
      cases s with
      | nil =>
          rw [readEntry] at hRead
          cases hRead
      | cons b s =>
          have hLess := fgets_shorter (bufsiz - 2) b s
          change (dbTurn parse (b :: s)).2.length < _ at hLess
          rw [readEntry] at hRead
          split at hRead
          · cases hRead
            omega
          · have hRest := ih _ (by omega) hRead rfl
            omega

/- The entries that the calls return, until one finds none. -/
def allEntries (parse : Bytes → Option ε) (s : Bytes) :
    List ε :=
  match _hRead : readEntry parse s with
  | (some entry, rest) => entry :: allEntries parse rest
  | (none, _) => []
termination_by s.length
decreasing_by exact readEntry_shorter _hRead

theorem allEntries_of_some
    {s rest : Bytes}
    {entry : ε}
    (hRead : readEntry parse s = (some entry, rest)) :
    allEntries parse s = entry :: allEntries parse rest := by
  rw [allEntries]
  split
  · rename_i hOther
    rw [hRead] at hOther
    cases hOther
    rfl
  · rename_i hOther
    rw [hRead] at hOther
    cases hOther

theorem allEntries_congr
    {s t : Bytes}
    (hSame : readEntry parse s = readEntry parse t) :
    allEntries parse s = allEntries parse t := by
  rw [allEntries, allEntries, hSame]

theorem allEntries_nil : allEntries parse [] = [] := by
  rw [allEntries]
  split
  · rename_i hRead
    rw [readEntry] at hRead
    cases hRead
  · rfl

end Reading

theorem length_fgets_le
    (room : Nat)
    (s : Bytes) :
    (fgets room s).1.length ≤ room := by
  induction room generalizing s with
  | zero => simp [fgets]
  | succ room ih =>
      cases s with
      | nil => exact Nat.zero_le _
      | cons b s =>
          have hRest := ih s
          unfold fgets
          split
          · exact Nat.succ_le_succ (Nat.zero_le room)
          · exact Nat.succ_le_succ hRest

/- A line that fits is read as a whole. -/
theorem fgets_fits
    {room : Nat}
    {t rest : Bytes}
    {ended : Bool}
    (hNewline : newline ∉ t)
    (hLast : ended = false → rest = [])
    (hFits : (t ++ lineEnd ended).length ≤ room) :
    fgets room (t ++ lineEnd ended ++ rest) =
      (t ++ lineEnd ended, rest) := by
  induction t generalizing room with
  | nil =>
      cases ended with
      | true =>
          cases room with
          | zero => cases hFits
          | succ room => simp [lineEnd, fgets]
      | false =>
          rw [hLast rfl]
          cases room with
          | zero => rfl
          | succ room => rfl
  | cons b t ih =>
      cases room with
      | zero => cases hFits
      | succ room =>
          have hHead : b ≠ newline := by
            intro hSame
            exact hNewline (hSame ▸ List.mem_cons_self)
          have hTail := @ih room
            (fun hMem => hNewline (List.mem_cons_of_mem b hMem))
            (Nat.le_of_succ_le_succ hFits)
          simp only [List.cons_append, fgets, if_neg hHead,
            hTail]

/- A longer one leaves more than the lines behind it. -/
theorem fgets_long
    {room : Nat}
    {line rest : Bytes}
    (hLong : room < line.length) :
    (fgets room (line ++ rest)).2 ≠ rest := by
  intro hSame
  have hLength := length_fgets room (line ++ rest)
  have hLess := length_fgets_le room (line ++ rest)
  rw [hSame, List.length_append] at hLength
  omega

------------------------------------------------------------
-- Files
------------------------------------------------------------

/-
  The lines of a database: their text, the entry that they
  are written for, and the one that the library reads in
  them.
-/
structure LineFormat (L ε : Type) where
  parse : Bytes → Option ε
  content : L → Bytes
  tail : L → LineTail
  entry : L → ε
  reading : L → ε
  content_ne : ∀ l, content l ≠ []
  single : ∀ l, newline ∉ content l
  parse_line : ∀ l ended,
    parse (content l ++ (tail l).remark ++ lineEnd ended) =
      if (tail l).remark = [] ∧ ended = false then none
      else some (reading l)
  parse_remark : ∀ c, parse (hash :: c) = none

/- The line of an entry, or a line that is a comment. -/
inductive FileLine (L : Type)
  | entry (l : L)
  | remark (c : Bytes) (single : newline ∉ c)

section Files

variable {L ε : Type} (F : LineFormat L ε)

namespace FileLine

/- A line without its newline. -/
def text : FileLine L → Bytes
| entry l => F.content l ++ (F.tail l).remark
| remark c _ => hash :: c

def value : FileLine L → Option ε
| entry l => some (F.entry l)
| remark _ _ => none

theorem text_ne_nil (l : FileLine L) : l.text F ≠ [] := by
  cases l with
  | entry l =>
      intro hNone
      exact F.content_ne l (List.append_eq_nil_iff.mp hNone).1
  | remark c single => exact List.cons_ne_nil hash c

theorem newline_not_mem (l : FileLine L) :
    newline ∉ l.text F := by
  cases l with
  | entry l =>
      intro hMem
      rcases List.mem_append.mp hMem with hMem | hMem
      · exact F.single l hMem
      · exact (F.tail l).newline_not_mem_remark hMem
  | remark c single =>
      intro hMem
      rcases List.mem_cons.mp hMem with hMem | hMem
      · exact absurd hMem (by decide)
      · exact single hMem

end FileLine

/-
  The text of a file. Only its last line may have no newline,
  if `ended` is false.
-/
def fileText (ended : Bool) : List (FileLine L) → Bytes
| [] => []
| l :: ls =>
    l.text F ++ lineEnd (ended || !ls.isEmpty) ++
      fileText ended ls

/-
  Each line is read by one turn of the loop, which gives its
  entry and leaves the lines behind it.
-/
def TurnsBack (ended : Bool) : List (FileLine L) → Prop
| [] => True
| l :: ls =>
    dbTurn F.parse (fileText F ended (l :: ls)) =
        (l.value F, fileText F ended ls) ∧
      TurnsBack ended ls

/- So the calls return each entry once, and in order. -/
def ReadsBack (ended : Bool) (lines : List (FileLine L)) :
    Prop :=
  TurnsBack F ended lines ∧
    allEntries F.parse (fileText F ended lines) =
      lines.filterMap (FileLine.value F)

/-
  The line fits into the buffer. The line of an entry has a
  newline or a comment, and it is not `odd`.
-/
def LineClean
    (odd : L → Prop)
    (l : FileLine L)
    (ended : Bool) : Prop :=
  (l.text F ++ lineEnd ended).length < bufsiz ∧
    match l with
    | .entry l =>
        ((F.tail l).comment.isSome ∨ ended = true) ∧ ¬ odd l
    | .remark _ _ => True

def FileClean
    (odd : L → Prop)
    (ended : Bool) : List (FileLine L) → Prop
| [] => True
| l :: ls =>
    LineClean F odd l (ended || !ls.isEmpty) ∧
      FileClean odd ended ls

variable {F}

theorem LineTail.remark_eq_nil_iff (t : LineTail) :
    t.remark = [] ↔ t.comment.isSome = false := by
  unfold LineTail.remark
  cases t.comment with
  | none => simp
  | some c => simp

/- One turn of the loop, at the start of a line. -/
theorem turn_iff
    {odd : L → Prop}
    (hOdd : ∀ l, F.reading l = F.entry l ↔ ¬ odd l)
    (l : FileLine L)
    {ended : Bool}
    {rest : Bytes}
    (hLast : ended = false → rest = []) :
    dbTurn F.parse (l.text F ++ lineEnd ended ++ rest) =
        (l.value F, rest) ↔
      LineClean F odd l ended := by
  by_cases hFits : (l.text F ++ lineEnd ended).length < bufsiz
  · have hRead := @fgets_fits (bufsiz - 1) _ _ _
      (l.newline_not_mem F) hLast (by omega)
    unfold dbTurn LineClean
    rw [hRead]
    simp only [hFits, true_and, Prod.mk.injEq, and_true]
    cases l with
    | entry l =>
        simp only [FileLine.text, F.parse_line,
          LineTail.remark_eq_nil_iff, FileLine.value, ← hOdd]
        by_cases hOpen :
            (F.tail l).comment.isSome = false ∧ ended = false
        · rw [if_pos hOpen]
          simp [hOpen.1, hOpen.2]
        · rw [if_neg hOpen]
          have hShut : (F.tail l).comment.isSome = true ∨
              ended = true := by
            rcases Decidable.not_and_iff_or_not.mp hOpen with
              hC | hE
            · exact .inl (Bool.eq_true_of_not_eq_false hC)
            · exact .inr (Bool.eq_true_of_not_eq_false hE)
          simp only [Option.some.injEq, hShut, true_and]
    | remark c single =>
        simp [FileLine.text, FileLine.value, F.parse_remark]
  · have hLong := @fgets_long (bufsiz - 1) _ rest
      (Nat.lt_of_lt_of_le (by decide)
        (Nat.le_of_not_lt hFits))
    constructor
    · intro hTurn
      exact absurd (congrArg Prod.snd hTurn) hLong
    · intro hClean
      exact absurd hClean.1 hFits

theorem turnsBack_iff
    {odd : L → Prop}
    (hOdd : ∀ l, F.reading l = F.entry l ↔ ¬ odd l)
    (ended : Bool)
    (lines : List (FileLine L)) :
    TurnsBack F ended lines ↔ FileClean F odd ended lines := by
  induction lines with
  | nil => rfl
  | cons l ls ih =>
      have hLast : (ended || !ls.isEmpty) = false →
          fileText F ended ls = [] := by
        intro hNot
        cases ls with
        | nil => rfl
        | cons l' ls => simp at hNot
      have hTurn := turn_iff hOdd l hLast
      change dbTurn F.parse (fileText F ended (l :: ls)) = _ ↔
        _ at hTurn
      unfold TurnsBack FileClean
      rw [hTurn, ih]

/- The calls return what the turns give. -/
theorem entries_of_turnsBack
    {ended : Bool}
    {lines : List (FileLine L)}
    (hTurns : TurnsBack F ended lines) :
    allEntries F.parse (fileText F ended lines) =
      lines.filterMap (FileLine.value F) := by
  induction lines with
  | nil => exact allEntries_nil
  | cons l ls ih =>
      obtain ⟨hTurn, hRest⟩ := hTurns
      have hSome : fileText F ended (l :: ls) ≠ [] := by
        intro hNone
        unfold fileText at hNone
        have hParts := List.append_eq_nil_iff.mp hNone
        exact l.text_ne_nil F
          (List.append_eq_nil_iff.mp hParts.1).1
      rw [List.filterMap_cons, ← ih hRest]
      cases hValue : l.value F with
      | none =>
          rw [hValue] at hTurn
          exact allEntries_congr
            (readEntry_of_skip hSome hTurn)
      | some entry =>
          rw [hValue] at hTurn
          exact allEntries_of_some
            (readEntry_of_turn hSome hTurn)

theorem readsBack_iff
    {odd : L → Prop}
    (hOdd : ∀ l, F.reading l = F.entry l ↔ ¬ odd l)
    (ended : Bool)
    (lines : List (FileLine L)) :
    ReadsBack F ended lines ↔
      FileClean F odd ended lines := by
  rw [← turnsBack_iff hOdd]
  constructor
  · intro hReads
    exact hReads.1
  · intro hTurns
    exact ⟨hTurns, entries_of_turnsBack hTurns⟩

end Files

------------------------------------------------------------
-- The Three Databases
------------------------------------------------------------

theorem newline_of_counts
    {content : Bytes}
    (hCounts : ∀ b ∈ content, Counts b) :
    newline ∉ content := by
  intro hMem
  exact absurd (hCounts newline hMem).2 (by decide)

theorem entryPart_remark (c : Bytes) :
    entryPart (hash :: c) = none := by
  have hKeep : (hash :: c).takeWhile (· ≠ 0) =
      hash :: c.takeWhile (· ≠ 0) :=
    List.takeWhile_cons_of_pos (by decide)
  unfold entryPart
  rw [hKeep]
  rfl

def hostFormat : LineFormat HostLine Hostent where
  parse := parseHost
  content := HostLine.content
  tail := HostLine.tail
  entry := HostLine.entry
  reading := HostLine.entry
  content_ne := fun _ => content_ne_nil _ _ _
  single := fun l => newline_of_counts l.counts
  parse_line := parseHost_line
  parse_remark := by
    intro c
    rw [parseHost, entryPart_remark]
    rfl

def servFormat : LineFormat ServLine Servent where
  parse := parseServ
  content := ServLine.content
  tail := ServLine.tail
  entry := ServLine.entry
  reading := ServLine.entry
  content_ne := fun _ => content_ne_nil _ _ _
  single := fun l => newline_of_counts l.counts
  parse_line := parseServ_line
  parse_remark := by
    intro c
    rw [parseServ, entryPart_remark]
    rfl

def netFormat : LineFormat NetLine Netent where
  parse := parseNet
  content := NetLine.content
  tail := NetLine.tail
  entry := NetLine.entry
  reading := NetLine.reading
  content_ne := fun _ => content_ne_nil _ _ _
  single := fun l => newline_of_counts l.counts
  parse_line := parseNet_line
  parse_remark := by
    intro c
    rw [parseNet, entryPart_remark]
    rfl

/- A network is read right when its number is not the end. -/
theorem reading_iff (l : NetLine) :
    l.reading = l.entry ↔ ¬ l.tail.text = [] := by
  unfold NetLine.reading
  by_cases hText : l.tail.text = []
  · rw [if_pos hText]
    simp only [hText, not_true_eq_false, iff_false]
    intro hSame
    have hNames := congrArg Netent.aliases hSame
    change [l.netText.text] = l.tail.names at hNames
    rw [l.tail.names_eq_nil hText] at hNames
    cases hNames
  · rw [if_neg hText]
    simp [hText]

/- Nothing behind the fields of a line. -/
def LineTail.bare : LineTail where
  aliases := []
  few := Nat.zero_le 34
  trailing := []
  blank := List.forall_mem_nil _
  comment := none
  single := fun _ hNone => nomatch hNone

/- A blank -/
def DbBlanks.one : DbBlanks where
  text := [32]
  some := List.cons_ne_nil _ _
  blank := List.forall_mem_singleton.mpr rfl

/- The line `1.2.3.4 1` of the hosts file -/
def plainHost : HostLine where
  addr := ⟨1, 2, 3, 4⟩
  addrText := DbWord.ofAddr ⟨1, 2, 3, 4⟩
  reads := inetAddr_ofAddr _
  sep := DbBlanks.one
  name := DbWord.ofNumber 1
  tail := LineTail.bare

/- The line `1 0.0.0.127` of the networks file -/
def plainNet : NetLine where
  name := DbWord.ofNumber 1
  sep := DbBlanks.one
  net := 127
  netText := DbWord.ofAddr ⟨0, 0, 0, 127⟩
  reads := inetNetwork_inetNtoa ⟨0, 0, 0, 127⟩
  tail := LineTail.bare

end Libsocket
