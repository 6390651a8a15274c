import Libsocket.Inet.Databases

/-
  The lines of the databases of hosts, services and networks,
  and what the library reads in them.

  Main declarations:
    * `DbWord`, `DbBlanks`, `LineTail`
    * `HostLine`, `ServLine`, `NetLine`
    * `parseHost_line`, `parseServ_line`, `parseNet_line`
-/

namespace Libsocket

------------------------------------------------------------
-- Words And Blanks
------------------------------------------------------------

/- A character that may stand in a word. -/
def isPlain (b : UInt8) : Bool :=
  b != 0 && !isBlank b && !endsEntry b && !endsPort b

structure DbWord where
  text : Bytes
  some : text ≠ []
  plain : ∀ b ∈ text, isPlain b = true

/- At least one blank or tab. -/
structure DbBlanks where
  text : Bytes
  some : text ≠ []
  blank : ∀ b ∈ text, isBlank b = true

/- A character in front of a comment and the newline. -/
def Counts (b : UInt8) : Prop :=
  b ≠ 0 ∧ endsEntry b = false

theorem isPlain_spec
    {b : UInt8}
    (hPlain : isPlain b = true) :
    Counts b ∧ isBlank b = false ∧ endsPort b = false := by
  simp only [isPlain, Bool.and_eq_true, bne_iff_ne,
    Bool.not_eq_true'] at hPlain
  obtain ⟨⟨⟨hZero, hBlank⟩, hEntry⟩, hPort⟩ := hPlain
  exact ⟨⟨hZero, hEntry⟩, hBlank, hPort⟩

theorem counts_of_blank
    {b : UInt8}
    (hBlank : isBlank b = true) :
    Counts b := by
  simp only [isBlank, Bool.or_eq_true, beq_iff_eq] at hBlank
  obtain rfl | rfl := hBlank
  · exact ⟨by decide, by decide⟩
  · exact ⟨by decide, by decide⟩

theorem counts_of_port
    {b : UInt8}
    (hPort : endsPort b = true) :
    Counts b := by
  simp only [endsPort, Bool.or_eq_true, beq_iff_eq] at hPort
  obtain rfl | rfl := hPort
  · exact ⟨by decide, by decide⟩
  · exact ⟨by decide, by decide⟩

namespace DbWord

variable (w : DbWord)

theorem counts : ∀ b ∈ w.text, Counts b :=
  fun b hB => (isPlain_spec (w.plain b hB)).1

theorem noBlank : ∀ b ∈ w.text, isBlank b = false :=
  fun b hB => (isPlain_spec (w.plain b hB)).2.1

theorem noPort : ∀ b ∈ w.text, endsPort b = false :=
  fun b hB => (isPlain_spec (w.plain b hB)).2.2

end DbWord

------------------------------------------------------------
-- Behind The Fields
------------------------------------------------------------

/-
  What follows the first fields of a line: the aliases with
  blanks in front of each, blanks, and a comment.
-/
structure LineTail where
  aliases : List (DbBlanks × DbWord)
  few : aliases.length ≤ 34
  trailing : Bytes
  blank : ∀ b ∈ trailing, isBlank b = true
  comment : Option Bytes
  single : ∀ c, comment = some c → newline ∉ c

namespace LineTail

variable (t : LineTail)

/- The aliases of the entry. -/
def names : List Bytes := t.aliases.map fun a => a.2.text

def words : List (Bytes × Bytes) :=
  t.aliases.map fun a => (a.1.text, a.2.text)

def text : Bytes := Words.spaced t.words ++ t.trailing

/- The comment with its sign. -/
def remark : Bytes :=
  match t.comment with
  | none => []
  | some c => hash :: c

theorem separators :
    ∀ next ∈ t.words,
      next.1 ≠ [] ∧ ∀ b ∈ next.1, isBlank b = true := by
  intro next hNext
  obtain ⟨a, -, rfl⟩ := List.mem_map.mp hNext
  exact ⟨a.1.some, a.1.blank⟩

theorem plainWords :
    ∀ next ∈ t.words,
      next.2 ≠ [] ∧ ∀ b ∈ next.2, isBlank b = false := by
  intro next hNext
  obtain ⟨a, -, rfl⟩ := List.mem_map.mp hNext
  exact ⟨a.2.some, a.2.noBlank⟩

theorem counts : ∀ b ∈ t.text, Counts b := by
  intro b hB
  rcases List.mem_append.mp hB with hB | hB
  · obtain ⟨next, hNext, hB⟩ := List.mem_flatMap.mp hB
    obtain ⟨a, -, rfl⟩ := List.mem_map.mp hNext
    rcases List.mem_append.mp hB with hB | hB
    · exact counts_of_blank (a.1.blank b hB)
    · exact a.2.counts b hB
  · exact counts_of_blank (t.blank b hB)

theorem newline_not_mem_remark : newline ∉ t.remark := by
  unfold remark
  cases hComment : t.comment with
  | none => exact List.not_mem_nil
  | some c =>
      intro hMem
      rcases List.mem_cons.mp hMem with hMem | hMem
      · exact absurd hMem (by decide)
      · exact t.single c hComment hMem

/- The aliases, from the first blank behind a field on. -/
theorem collect_text :
    Words.collect isBlank (maxAliases - 1) (some t.text) =
      t.names := by
  have hRoom : t.words.length ≤ maxAliases - 1 := by
    rw [words, List.length_map]
    exact t.few
  have hAll := Words.collect_spaced t.separators t.plainWords
    t.blank hRoom
  rw [text, hAll, words, List.map_map]
  rfl

/- Nothing behind the fields means no alias. -/
theorem names_eq_nil (hText : t.text = []) :
    t.names = [] := by
  rw [← t.collect_text, hText, Words.collect]

/- The field in front is cut off, and the aliases are left. -/
theorem word_text
    {w : Bytes}
    (hWord : ∀ b ∈ w, isBlank b = false) :
    ∃ cp, Words.word isBlank (w ++ t.text) = (w, cp) ∧
      dbAliases cp = t.names ∧ (cp = none ↔ t.text = []) := by
  obtain hEmpty | ⟨x, xs, hShape, hBlank⟩ :=
    Words.spaced_head t.separators t.blank
  · change t.text = [] at hEmpty
    refine ⟨none, ?_, ?_, by simp [hEmpty]⟩
    · rw [hEmpty, List.append_nil]
      exact Words.word_of_none hWord
    · rw [t.names_eq_nil hEmpty]
      exact Words.collect_none _
  · change t.text = x :: xs at hShape
    refine ⟨some xs, ?_, ?_, by simp [hShape]⟩
    · rw [hShape]
      exact Words.word_append hWord hBlank xs
    · have hAll := t.collect_text
      rw [hShape, Words.collect, if_pos hBlank] at hAll
      exact hAll

end LineTail

------------------------------------------------------------
-- Taking A Line Apart
------------------------------------------------------------

/- The newline of a line that has one. -/
def lineEnd (ended : Bool) : Bytes :=
  if ended then [newline] else []

theorem takeWhile_counts
    {content : Bytes}
    (hCounts : ∀ b ∈ content, Counts b)
    (rest : Bytes) :
    (content ++ rest).takeWhile (· ≠ 0) =
      content ++ rest.takeWhile (· ≠ 0) := by
  rw [List.takeWhile_append_of_pos]
  intro b hB
  simpa using (hCounts b hB).1

/-
  The part of a line that counts ends at a comment or at the
  newline; without either the line has none.
-/
theorem entryPart_line
    {content remark : Bytes}
    (hSome : content ≠ [])
    (hCounts : ∀ b ∈ content, Counts b)
    (hRemark : remark = [] ∨ remark.head? = some hash)
    (ended : Bool) :
    entryPart (content ++ remark ++ lineEnd ended) =
      if remark = [] ∧ ended = false then none
      else some content := by
  have hCut : ∀ b ∈ content, endsEntry b = false :=
    fun b hB => (hCounts b hB).2
  obtain ⟨x, xs, hShape⟩ := List.exists_cons_of_ne_nil hSome
  have hHead : ∀ rest : Bytes,
      (content ++ rest).head? ≠ some hash := by
    intro rest hHash
    rw [hShape] at hHash hCut
    have hX := hCut x List.mem_cons_self
    cases hHash
    exact absurd hX (by decide)
  unfold entryPart
  dsimp only
  rw [List.append_assoc, takeWhile_counts hCounts,
    if_neg (hHead _)]
  rcases hRemark with hNone | hHash
  · cases ended with
    | true =>
        rw [hNone, if_neg (by simp)]
        have hEnd := @Words.cut_append _ endsEntry content
          newline hCut (by decide) []
        exact congrArg (Option.map Prod.fst) hEnd
    | false =>
        rw [hNone, if_pos ⟨rfl, rfl⟩]
        have hEnd := Words.cut_of_none hCut
        change (Words.cut endsEntry (content ++ [])).map _ = _
        rw [List.append_nil, hEnd]
        rfl
  · cases remark with
    | nil => cases hHash
    | cons b c =>
        cases hHash
        rw [if_neg (by simp)]
        have hEnd := @Words.cut_append _ endsEntry content
          hash hCut (by decide)
          ((c ++ lineEnd ended).takeWhile (· ≠ 0))
        exact congrArg (Option.map Prod.fst) hEnd

/- The first field, and what is behind the blanks after it. -/
theorem cut_field
    (w : DbWord)
    (sep : DbBlanks)
    {rest : Bytes}
    (hRest : ∀ b, rest.head? = some b → isBlank b = false) :
    ∃ cp, Words.cut isBlank (w.text ++ sep.text ++ rest) =
        some (w.text, cp) ∧
      cp.dropWhile isBlank = rest := by
  obtain ⟨x, xs, hShape⟩ :=
    List.exists_cons_of_ne_nil sep.some
  have hBlank := sep.blank
  rw [hShape] at hBlank
  refine ⟨xs ++ rest, ?_, ?_⟩
  · rw [hShape, List.append_assoc]
    exact Words.cut_append w.noBlank
      (hBlank x List.mem_cons_self) (xs ++ rest)
  · rw [List.dropWhile_append_of_pos]
    · cases rest with
      | nil => rfl
      | cons b rest => simp [hRest b rfl]
    · intro b hB
      exact hBlank b (List.mem_cons_of_mem x hB)

theorem head_word
    (w : DbWord)
    (rest : Bytes) :
    ∀ b, (w.text ++ rest).head? = some b →
      isBlank b = false := by
  intro b hHead
  obtain ⟨x, xs, hShape⟩ := List.exists_cons_of_ne_nil w.some
  have hPlain := w.noBlank x (by rw [hShape]; exact
    List.mem_cons_self)
  rw [hShape] at hHead
  cases hHead
  exact hPlain

------------------------------------------------------------
-- Hosts
------------------------------------------------------------

/- A line of the hosts file: the address and the name. -/
structure HostLine where
  addr : InAddr
  addrText : DbWord
  reads : inetAddr addrText.text = addr
  sep : DbBlanks
  name : DbWord
  tail : LineTail

namespace HostLine

variable (l : HostLine)

def content : Bytes :=
  l.addrText.text ++ l.sep.text ++
    (l.name.text ++ l.tail.text)

def entry : Hostent where
  name := l.name.text
  aliases := l.tail.names
  addrtype := afInet
  length := 4
  addr := l.addr

end HostLine

/- What every content of two fields has. -/
theorem content_counts
    {first second : DbWord}
    {middle : Bytes}
    {sep : DbBlanks}
    {tail : LineTail}
    (hMiddle : ∀ b ∈ middle, Counts b) :
    ∀ b ∈ first.text ++ sep.text ++
      (middle ++ (second.text ++ tail.text)), Counts b := by
  intro b hB
  simp only [List.mem_append] at hB
  obtain (hB | hB) | hB | hB | hB := hB
  · exact first.counts b hB
  · exact counts_of_blank (sep.blank b hB)
  · exact hMiddle b hB
  · exact second.counts b hB
  · exact tail.counts b hB

theorem content_ne_nil
    (w : DbWord)
    (rest rest' : Bytes) :
    w.text ++ rest ++ rest' ≠ [] := by
  intro hNone
  have hParts := List.append_eq_nil_iff.mp hNone
  exact w.some (List.append_eq_nil_iff.mp hParts.1).1

theorem LineTail.head_remark (t : LineTail) :
    t.remark = [] ∨ t.remark.head? = some hash := by
  unfold LineTail.remark
  cases t.comment with
  | none => exact .inl rfl
  | some c => exact .inr rfl

theorem HostLine.counts (l : HostLine) :
    ∀ b ∈ l.content, Counts b :=
  @content_counts l.addrText l.name [] l.sep l.tail
    fun _ hB => nomatch hB

/- The line of a host gives the host. -/
theorem parseHost_line
    (l : HostLine)
    (ended : Bool) :
    parseHost (l.content ++ l.tail.remark ++ lineEnd ended) =
      if l.tail.remark = [] ∧ ended = false then none
      else some l.entry := by
  have hPart := @entryPart_line l.content l.tail.remark
    (content_ne_nil _ _ _) l.counts l.tail.head_remark ended
  unfold parseHost
  rw [hPart]
  split
  · rfl
  · obtain ⟨cp, hCut, hDrop⟩ := cut_field l.addrText l.sep
      (head_word l.name l.tail.text)
    obtain ⟨cp', hWord, hNames, -⟩ :=
      l.tail.word_text l.name.noBlank
    simp only [Option.bind_eq_bind, Option.bind_some,
      HostLine.content, hCut, hDrop, hWord, hNames, l.reads,
      Option.pure_def, HostLine.entry]

------------------------------------------------------------
-- Services
------------------------------------------------------------

/- A line of the services file: the name, port and protocol. -/
structure ServLine where
  name : DbWord
  sep : DbBlanks
  port : Nat
  portText : DbWord
  small : port < 65536
  reads : atoi portText.text = port
  mark : UInt8
  ends : endsPort mark = true
  proto : DbWord
  tail : LineTail

namespace ServLine

variable (l : ServLine)

def content : Bytes :=
  l.name.text ++ l.sep.text ++
    (l.portText.text ++ [l.mark] ++
      (l.proto.text ++ l.tail.text))

def entry : Servent where
  name := l.name.text
  aliases := l.tail.names
  port := htons l.port
  proto := l.proto.text

end ServLine

theorem ServLine.counts (l : ServLine) :
    ∀ b ∈ l.content, Counts b := by
  have hMiddle : ∀ b ∈ l.portText.text ++ [l.mark],
      Counts b := by
    intro b hB
    rcases List.mem_append.mp hB with hB | hB
    · exact l.portText.counts b hB
    · rw [List.mem_singleton.mp hB]
      exact counts_of_port l.ends
  exact @content_counts l.name l.proto _ l.sep l.tail hMiddle

/- The line of a service gives the service. -/
theorem parseServ_line
    (l : ServLine)
    (ended : Bool) :
    parseServ (l.content ++ l.tail.remark ++ lineEnd ended) =
      if l.tail.remark = [] ∧ ended = false then none
      else some l.entry := by
  have hHead := head_word l.portText
    ([l.mark] ++ (l.proto.text ++ l.tail.text))
  rw [← List.append_assoc] at hHead
  have hPort : ((l.port : Int) % 65536).toNat = l.port := by
    have hSmall := l.small
    omega
  have hPart := @entryPart_line l.content l.tail.remark
    (content_ne_nil _ _ _) l.counts l.tail.head_remark ended
  unfold parseServ
  rw [hPart]
  split
  · rfl
  · obtain ⟨cp, hCut, hDrop⟩ := cut_field l.name l.sep hHead
    have hField : Words.cut endsPort (l.portText.text ++
        [l.mark] ++ (l.proto.text ++ l.tail.text)) =
          some (l.portText.text,
            l.proto.text ++ l.tail.text) := by
      rw [List.append_assoc]
      exact Words.cut_append l.portText.noPort l.ends _
    obtain ⟨cp', hWord, hNames, -⟩ :=
      l.tail.word_text l.proto.noBlank
    simp only [Option.bind_eq_bind, Option.bind_some,
      ServLine.content, hCut, hDrop, hField, hWord, hNames,
      l.reads, hPort, Option.pure_def, ServLine.entry]

------------------------------------------------------------
-- Networks
------------------------------------------------------------

/- A line of the networks file: the name and the number. -/
structure NetLine where
  name : DbWord
  sep : DbBlanks
  net : Nat
  netText : DbWord
  reads : inetNetwork netText.text = net
  tail : LineTail

namespace NetLine

variable (l : NetLine)

def content : Bytes :=
  l.name.text ++ l.sep.text ++
    (l.netText.text ++ l.tail.text)

def entry : Netent where
  name := l.name.text
  aliases := l.tail.names
  addrtype := afInet
  net := l.net

/- What the library reads in the line. -/
def reading : Netent :=
  if l.tail.text = [] then
    { l.entry with aliases := [l.netText.text] }
  else
    l.entry

theorem counts : ∀ b ∈ l.content, Counts b :=
  @content_counts l.name l.netText [] l.sep l.tail
    fun _ hB => nomatch hB

end NetLine

/-
  The line of a network gives the network; but when nothing
  stands behind the number, the number is the alias.
-/
theorem parseNet_line
    (l : NetLine)
    (ended : Bool) :
    parseNet (l.content ++ l.tail.remark ++ lineEnd ended) =
      if l.tail.remark = [] ∧ ended = false then none
      else some l.reading := by
  have hPart := @entryPart_line l.content l.tail.remark
    (content_ne_nil _ _ _) l.counts l.tail.head_remark ended
  unfold parseNet
  rw [hPart]
  split
  · rfl
  · obtain ⟨cp, hCut, hDrop⟩ := cut_field l.name l.sep
      (head_word l.netText l.tail.text)
    obtain ⟨cp', hWord, hNames, hNone⟩ :=
      l.tail.word_text l.netText.noBlank
    simp only [Option.bind_eq_bind, Option.bind_some,
      NetLine.content, hCut, hDrop, hWord, l.reads,
      Option.pure_def, NetLine.reading, NetLine.entry]
    by_cases hText : l.tail.text = []
    · rw [if_pos hText, hNone.mpr hText]
      have hAlias := Words.collect_word l.netText.some
        l.netText.noBlank 33
      simp only [Option.getD_none, dbAliases, maxAliases,
        hAlias]
    · rw [if_neg hText]
      cases cp' with
      | none => exact absurd (hNone.mp rfl) hText
      | some rest => simp only [Option.getD_some, hNames]

end Libsocket
