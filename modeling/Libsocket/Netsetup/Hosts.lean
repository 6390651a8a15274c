import Libsocket.Inet.Unfinished
import Libsocket.Library.WordList
import Libsocket.Netsetup

/-
  The entry of the own host in the hosts file. `netsetup`
  looks for both texts in a line, and if no line has them it
  writes a new line behind whatever the file ends with.

  Main declarations:
    * `hostsLine`, `hostsUpdate`
    * `HostsUpdated`
    * `Mentions`, `Joins`
    * `hostsUpdated_iff`, `entry_missed`
-/

namespace Libsocket

------------------------------------------------------------
-- The Update
------------------------------------------------------------

/- `strstr(s, word) != NULL` -/
def strstr (word : Bytes) : Bytes → Bool
| [] => word.isEmpty
| b :: s => word.isPrefixOf (b :: s) || strstr word s

/- `sizeof(line)` -/
def hostsLineSize : Nat := 256

/- The cursor `q`, behind the blanks of the line. -/
def hostsCursor (line : Bytes) : Bytes :=
  (line.takeWhile (· ≠ 0)).dropWhile isBlank

/- The line is not a comment, and it has both strings. -/
def hostsLine (p hostNameShort line : Bytes) : Bool :=
  let q := hostsCursor line
  decide (q.head? ≠ some hash) && strstr p q &&
    strstr hostNameShort q

/- The host name up to its first dot -/
def hostNameShort (hostName : Bytes) : Bytes :=
  hostName.takeWhile (· ≠ fullStop)

/- The blanks of the new line -/
def hostsBlanks : Bytes := bytes "    "

/- The new line -/
def hostsText (ipAddr : InAddr) (hostName : Bytes) : Bytes :=
  inetNtoa ipAddr ++ hostsBlanks ++ hostNameShort hostName ++
    [newline]

/-
  What the hosts file holds afterwards. A file that cannot be
  opened stays as it is.
-/
def hostsUpdate
    (opened : Bool)
    (ipAddr : InAddr)
    (hostName : Bytes)
    (file : Bytes) : Bytes :=
  if opened = false then
    file
  else
    let found := (fgetsAll hostsLineSize file).any
      (hostsLine (inetNtoa ipAddr) (hostNameShort hostName))
    if found then
      file
    else
      file ++ hostsText ipAddr hostName

/- A host name that fits its array. -/
structure EnteredName where
  text : Bytes
  chars : ∀ c ∈ text, isHostChar c = true
  fits : text.length < 256

namespace EnteredName

variable (n : EnteredName)

def short : Bytes := hostNameShort n.text

end EnteredName

------------------------------------------------------------
-- What Should Hold
------------------------------------------------------------

/- The names of an entry; its aliases may count or not. -/
def Hostent.names (aliases : Bool) (e : Hostent) : List Bytes :=
  e.name :: if aliases then e.aliases else []

/- The entry has this address and this name. -/
def Hostent.Lists
    (aliases : Bool)
    (addr : InAddr)
    (name : Bytes)
    (e : Hostent) : Prop :=
  e.addr = addr ∧ name ∈ e.names aliases

/- One of the entries that the library reads in a file -/
def Listed
    (aliases : Bool)
    (addr : InAddr)
    (name : Bytes)
    (file : Bytes) : Prop :=
  ∃ e ∈ allEntries parseHost file, e.Lists aliases addr name

/-
  The host is in the file, and all entries from before are
  still read, unchanged and in their order.
-/
structure HostsUpdated
    (aliases opened : Bool)
    (addr : InAddr)
    (n : EnteredName)
    (file : Bytes) : Prop where
  listed : Listed aliases addr n.short
    (hostsUpdate opened addr n.text file)
  kept : (allEntries parseHost file).Sublist
    (allEntries parseHost (hostsUpdate opened addr n.text file))

------------------------------------------------------------
-- When It Does
------------------------------------------------------------

/-
  Some line of the file, or some part of a long line, is not
  a comment and has both texts in it, wherever they stand.
-/
def Mentions
    (addr : InAddr)
    (name : Bytes)
    (file : Bytes) : Prop :=
  ∃ line ∈ fgetsAll hostsLineSize file,
    (hostsCursor line).head? ≠ some hash ∧
      inetNtoa addr <:+: hostsCursor line ∧
      name <:+: hostsCursor line

/- The number of words that count as names. -/
def nameRoom (aliases : Bool) : Nat :=
  if aliases then maxAliases else 1

/- The first field of a line -/
def firstField (line : Bytes) : Bytes :=
  line.takeWhile fun b => !isBlank b

/-
  The words behind the first field, when the text of the
  address follows the line.
-/
def laterWords (addr : InAddr) (line : Bytes) : List Bytes :=
  Strtok.tokens isBlank
    (line.dropWhile (fun b => !isBlank b) ++ inetNtoa addr)

/-
  An unfinished line takes the new text in. Without a blank,
  it is taken for the front of the address. With a blank, its
  own address counts, and the name must be among its names.
-/
def TakesIn
    (aliases : Bool)
    (addr : InAddr)
    (name : Bytes)
    (line : Bytes) : Prop :=
  0 ∉ line ∧ hash ∉ line ∧
    if line.any isBlank then
      inetAddr (firstField line) = addr ∧
        (name ∈ (laterWords addr line).take
            (nameRoom aliases) ∨
          name ≠ [] ∧
            (laterWords addr line).length < nameRoom aliases)
    else
      inetAddr (line ++ inetNtoa addr) = addr

/-
  The new line is read as the entry behind an unfinished one.
  If both do not fit the buffer together, the rest of the new
  line is a line of its own, with the rest of the address.
-/
def Joins
    (aliases : Bool)
    (addr : InAddr)
    (n : EnteredName)
    (line : Bytes) : Prop :=
  let room := bufsiz - 1 - line.length
  if (hostsText addr n.text).length ≤ room then
    TakesIn aliases addr n.short line
  else
    room < (inetNtoa addr ++ hostsBlanks).length ∧
      inetAddr ((inetNtoa addr).drop room) = addr

------------------------------------------------------------
-- The Search
------------------------------------------------------------

theorem strstr_iff (word s : Bytes) :
    strstr word s = true ↔ word <:+: s := by
  induction s with
  | nil => simp [strstr]
  | cons b s ih =>
      rw [strstr, Bool.or_eq_true, List.isPrefixOf_iff_prefix,
        ih, List.infix_cons_iff]

/- What the loop finds. -/
theorem found_iff
    (addr : InAddr)
    (name file : Bytes) :
    (fgetsAll hostsLineSize file).any
        (hostsLine (inetNtoa addr) name) = true ↔
      Mentions addr name file := by
  simp only [List.any_eq_true, Mentions, hostsLine,
    Bool.and_eq_true, decide_eq_true_eq, strstr_iff, and_assoc]

/- The file is changed in one case only. -/
theorem hostsUpdate_eq
    (opened : Bool)
    (addr : InAddr)
    (n : EnteredName)
    (file : Bytes) :
    (opened = true ∧ ¬ Mentions addr n.short file ∧
        hostsUpdate opened addr n.text file =
          file ++ hostsText addr n.text) ∨
      (¬ (opened = true ∧ ¬ Mentions addr n.short file) ∧
        hostsUpdate opened addr n.text file = file) := by
  have hFound := found_iff addr n.short file
  change (fgetsAll hostsLineSize file).any (hostsLine
    (inetNtoa addr) (hostNameShort n.text)) = true ↔ _ at hFound
  unfold hostsUpdate
  cases opened with
  | false =>
      exact .inr ⟨fun hNot => Bool.false_ne_true hNot.1, rfl⟩
  | true =>
      rw [if_neg (by decide)]
      by_cases hIs : Mentions addr n.short file
      · exact .inr ⟨fun hNot => hNot.2 hIs,
          if_pos (hFound.mpr hIs)⟩
      · exact .inl ⟨rfl, hIs,
          if_neg fun hAny => hIs (hFound.mp hAny)⟩

------------------------------------------------------------
-- The New Line
------------------------------------------------------------

theorem isPlain_host
    {c : UInt8}
    (hChar : isHostChar c = true) :
    isPlain c = true := by
  have hAll : ∀ n : Fin 256,
      isHostChar (UInt8.ofNat n) = true →
        isPlain (UInt8.ofNat n) = true := by decide +kernel
  have hOne := hAll ⟨c.toNat, c.toNat_lt⟩
  simp only [UInt8.ofNat_toNat] at hOne
  exact hOne hChar

namespace EnteredName

variable (n : EnteredName)

theorem plain : ∀ c ∈ n.short, isPlain c = true := by
  intro c hC
  exact isPlain_host
    (n.chars c ((List.takeWhile_prefix _).subset hC))

theorem counts : ∀ c ∈ n.short, Counts c :=
  fun c hC => (isPlain_spec (n.plain c hC)).1

theorem noBlank : ∀ c ∈ n.short, isBlank c = false :=
  fun c hC => (isPlain_spec (n.plain c hC)).2.1

theorem length_short : n.short.length < 256 :=
  lt_of_le_of_lt (List.takeWhile_prefix _).length_le n.fits

end EnteredName

theorem blanks_hostsBlanks :
    ∀ b ∈ hostsBlanks, isBlank b = true := by decide +kernel

theorem addr_counts (addr : InAddr) :
    ∀ b ∈ inetNtoa addr, Counts b := (DbWord.ofAddr addr).counts

theorem addr_noBlank (addr : InAddr) :
    ∀ b ∈ inetNtoa addr, isBlank b = false :=
  (DbWord.ofAddr addr).noBlank

/- The new line without its newline -/
def hostsEntry (addr : InAddr) (n : EnteredName) : Bytes :=
  inetNtoa addr ++ hostsBlanks ++ n.short

theorem hostsText_eq (addr : InAddr) (n : EnteredName) :
    hostsText addr n.text = hostsEntry addr n ++ [newline] := rfl

theorem hostsEntry_counts (addr : InAddr) (n : EnteredName) :
    ∀ b ∈ hostsEntry addr n, Counts b := by
  intro b hB
  simp only [hostsEntry, List.mem_append] at hB
  obtain (hB | hB) | hB := hB
  · exact addr_counts addr b hB
  · exact counts_of_blank (blanks_hostsBlanks b hB)
  · exact n.counts b hB

theorem length_hostsText (addr : InAddr) (n : EnteredName) :
    (hostsText addr n.text).length < bufsiz - 1 := by
  have hAddr := length_inetNtoa addr
  have hName := n.length_short
  have hBlanks : hostsBlanks.length = 4 := by decide
  rw [hostsText_eq, hostsEntry]
  simp only [List.length_append, hBlanks, List.length_cons,
    List.length_nil, bufsiz]
  omega

------------------------------------------------------------
-- Reading A Line
------------------------------------------------------------

theorem text_append_of_mem
    {line : Bytes}
    (hZero : 0 ∈ line)
    (rest : Bytes) :
    (line ++ rest).takeWhile (· ≠ 0) =
      line.takeWhile (· ≠ 0) := by
  have hSame : (fun b : UInt8 => decide (b ≠ 0)) =
      fun b => b != 0 := by
    funext b
    rw [Bool.eq_iff_iff, decide_eq_true_iff, bne_iff_ne]
  rw [hSame]
  exact CString.takeWhile_append_of_mem hZero rest

theorem text_append
    {line : Bytes}
    (hZero : 0 ∉ line)
    (rest : Bytes) :
    (line ++ rest).takeWhile (· ≠ 0) =
      line ++ rest.takeWhile (· ≠ 0) := by
  rw [List.takeWhile_append_of_pos]
  intro b hB
  exact decide_eq_true fun hSame => hZero (hSame ▸ hB)

/- A comment or a NUL shuts off what is behind it. -/
theorem entryPart_shut
    {line : Bytes}
    (hShut : 0 ∈ line ∨ hash ∈ line)
    (rest : Bytes) :
    entryPart (line ++ rest) = entryPart line := by
  by_cases hZero : 0 ∈ line
  · rw [entryPart, entryPart, text_append_of_mem hZero]
  · have hHash := hShut.resolve_left hZero
    have hEnds : endsEntry hash = true := by decide
    have hWhole := text_append hZero []
    rw [List.append_nil, List.takeWhile_nil,
      List.append_nil] at hWhole
    obtain ⟨left, x, right, hX, hLeft, hShape⟩ :=
      Words.exists_first ⟨hash, hHash, hEnds⟩
    have hSome : line ≠ [] := List.ne_nil_of_mem hHash
    unfold entryPart
    rw [text_append hZero, hWhole]
    dsimp only
    rw [List.head?_append_of_ne_nil _ hSome, hShape,
      List.append_assoc, List.cons_append,
      Words.cut_append hLeft hX, Words.cut_append hLeft hX]
    rfl

/- Without a newline or a comment there is no entry. -/
theorem entryPart_unfinished
    {line : Bytes}
    (hOpen : newline ∉ line)
    (hHash : hash ∉ line) :
    entryPart line = none := by
  have hIn := (List.takeWhile_prefix
    (l := line) fun b => decide (b ≠ 0)).subset
  have hNone : ∀ b ∈ line.takeWhile (· ≠ 0),
      endsEntry b = false := by
    intro b hB
    simp only [endsEntry, Bool.or_eq_false_iff,
      beq_eq_false_iff_ne]
    exact ⟨fun hSame => hHash (hSame ▸ hIn hB),
      fun hSame => hOpen (hSame ▸ hIn hB)⟩
  unfold entryPart
  dsimp only
  rw [Words.cut_of_none hNone]
  split
  · rfl
  · rfl

theorem entryPart_ended
    {content : Bytes}
    (hCounts : ∀ b ∈ content, Counts b) :
    entryPart (content ++ [newline]) = some content := by
  have hCut : ∀ b ∈ content, endsEntry b = false :=
    fun b hB => (hCounts b hB).2
  have hHead : (content ++ [newline]).head? ≠ some hash := by
    intro hHash
    have hMem := List.mem_of_head? hHash
    rcases List.mem_append.mp hMem with hMem | hMem
    · exact absurd (hCut hash hMem) (by decide)
    · exact absurd (List.mem_singleton.mp hMem) (by decide)
  have hText := takeWhile_counts hCounts [newline]
  have hNewline : [newline].takeWhile (fun b => decide (b ≠ 0)) =
      [newline] := by decide
  rw [hNewline] at hText
  unfold entryPart
  dsimp only
  rw [hText, if_neg hHead, Words.cut_append hCut (by decide)]
  rfl

/- A line without a blank has no name. -/
theorem parseHost_noBlank
    {content : Bytes}
    (hCounts : ∀ b ∈ content, Counts b)
    (hBlank : ∀ b ∈ content, isBlank b = false) :
    parseHost (content ++ [newline]) = none := by
  unfold parseHost
  rw [entryPart_ended hCounts]
  simp only [Option.bind_eq_bind, Option.bind_some,
    Words.cut_of_none hBlank, Option.bind_none]

/- An address and a name, which may be empty. -/
theorem parseHost_pair
    {field blanks name : Bytes}
    (hField : ∀ b ∈ field, Counts b ∧ isBlank b = false)
    (hBlanks : ∀ b ∈ blanks, isBlank b = true)
    (hSome : blanks ≠ [])
    (hName : ∀ b ∈ name, Counts b ∧ isBlank b = false) :
    parseHost (field ++ blanks ++ name ++ [newline]) =
      some ⟨name, [], afInet, 4, inetAddr field⟩ := by
  have hCounts : ∀ b ∈ field ++ blanks ++ name, Counts b := by
    intro b hB
    simp only [List.mem_append] at hB
    obtain (hB | hB) | hB := hB
    · exact (hField b hB).1
    · exact counts_of_blank (hBlanks b hB)
    · exact (hName b hB).1
  obtain ⟨x, xs, rfl⟩ := List.exists_cons_of_ne_nil hSome
  have hCut := @Words.cut_append _ isBlank field x
    (fun b hB => (hField b hB).2)
    (hBlanks x List.mem_cons_self) (xs ++ name)
  have hWord := Words.word_of_none fun b hB => (hName b hB).2
  have hDrop : (xs ++ name).dropWhile isBlank = name := by
    rw [List.dropWhile_append_of_pos fun b hB =>
      hBlanks b (List.mem_cons_of_mem x hB)]
    cases name with
    | nil => rfl
    | cons b name => simp [(hName b List.mem_cons_self).2]
  unfold parseHost
  rw [entryPart_ended hCounts]
  simp only [Option.bind_eq_bind, Option.bind_some,
    List.append_assoc, List.cons_append, hCut, hDrop, hWord]
  rw [dbAliases, Words.collect_none]
  rfl

/- A line with a blank, and all of its words behind that. -/
theorem parseHost_words
    {field rest : Bytes}
    {blank : UInt8}
    (hField : ∀ b ∈ field, Counts b ∧ isBlank b = false)
    (hBlank : isBlank blank = true)
    (hRest : ∀ b ∈ rest, Counts b)
    (hSome : Strtok.tokens isBlank rest ≠ []) :
    ∃ e, parseHost (field ++ blank :: rest ++ [newline]) =
        some e ∧ e.addr = inetAddr field ∧
      e.name :: e.aliases =
        (Strtok.tokens isBlank rest).take maxAliases := by
  have hCounts : ∀ b ∈ field ++ blank :: rest, Counts b := by
    intro b hB
    rw [List.mem_append, List.mem_cons] at hB
    obtain hB | rfl | hB := hB
    · exact (hField b hB).1
    · exact counts_of_blank hBlank
    · exact hRest b hB
  have hCut := @Words.cut_append _ isBlank field blank
    (fun b hB => (hField b hB).2) hBlank rest
  have hWords := Words.word_collect hSome (maxAliases - 1)
  let found := Words.word isBlank (rest.dropWhile isBlank)
  refine ⟨⟨found.1, dbAliases found.2, afInet, 4,
    inetAddr field⟩, ?_, rfl, hWords⟩
  unfold parseHost
  rw [entryPart_ended hCounts]
  simp only [Option.bind_eq_bind, Option.bind_some, hCut]
  rfl

theorem parseHost_shut
    {line : Bytes}
    (hShut : 0 ∈ line ∨ hash ∈ line)
    (rest : Bytes) :
    parseHost (line ++ rest) = parseHost line := by
  unfold parseHost
  rw [entryPart_shut hShut]

theorem parseHost_unfinished
    {line : Bytes}
    (hOpen : newline ∉ line)
    (hHash : hash ∉ line) :
    parseHost line = none := by
  unfold parseHost
  rw [entryPart_unfinished hOpen hHash]
  rfl

------------------------------------------------------------
-- Behind An Unfinished Line
------------------------------------------------------------

section Behind

variable (aliases : Bool) (addr : InAddr) (n : EnteredName)

/- The words of a line with the new text behind it. -/
theorem tokens_hostsEntry (rest : Bytes) :
    Strtok.tokens isBlank (rest ++ hostsEntry addr n) =
      Strtok.tokens isBlank (rest ++ inetNtoa addr) ++
        Strtok.tokens isBlank n.short := by
  have hLead := Strtok.tokens_lead
    (fun b hB => blanks_hostsBlanks b
      (List.mem_of_mem_tail hB)) n.short
  have hBlank : isBlank 32 = true := by decide
  have hDelim := Strtok.tokens_delim hBlank
    (rest ++ inetNtoa addr) (hostsBlanks.tail ++ n.short)
  rw [hLead] at hDelim
  rw [← hDelim]
  simp [hostsEntry, hostsBlanks, bytes]

/- As many of its words count as names as there is room. -/
theorem names_eq
    {e : Hostent}
    {words : List Bytes}
    (hWords : e.name :: e.aliases = words.take maxAliases) :
    e.names aliases = words.take (nameRoom aliases) := by
  cases aliases with
  | true => exact hWords
  | false =>
      have hOne := congrArg (List.take 1) hWords
      rw [List.take_take] at hOne
      exact hOne

/- The name is among the words, or it is the last of them. -/
theorem mem_take_words
    (words : List Bytes)
    (room : Nat) :
    n.short ∈ (words ++ Strtok.tokens isBlank n.short).take
        room ↔
      n.short ∈ words.take room ∨
        n.short ≠ [] ∧ words.length < room := by
  rw [List.take_append, List.mem_append]
  by_cases hNone : n.short = []
  · have hTokens : Strtok.tokens isBlank n.short = [] := by
      rw [hNone, Strtok.tokens_eq_nil_iff]
      exact List.forall_mem_nil _
    rw [hTokens]
    simp [hNone]
  · rw [Strtok.tokens_word n.noBlank hNone]
    have hOne : n.short ∈
        [n.short].take (room - words.length) ↔
          words.length < room := by
      cases hRoom : room - words.length with
      | zero =>
          simp only [List.take_zero, List.not_mem_nil,
            false_iff]
          omega
      | succ k =>
          simp only [List.take_succ_cons, List.mem_cons,
            true_or, true_iff]
          omega
    rw [hOne]
    simp [hNone]

/- A line without a blank goes in front of the address. -/
theorem parseHost_hostsEntry
    {line : Bytes}
    (hLine : ∀ b ∈ line, Counts b ∧ isBlank b = false) :
    parseHost (line ++ hostsText addr n.text) =
      some ⟨n.short, [], afInet, 4,
        inetAddr (line ++ inetNtoa addr)⟩ := by
  have hField : ∀ b ∈ line ++ inetNtoa addr,
      Counts b ∧ isBlank b = false := by
    intro b hB
    rcases List.mem_append.mp hB with hB | hB
    · exact hLine b hB
    · exact ⟨addr_counts addr b hB, addr_noBlank addr b hB⟩
  have hPair := parseHost_pair hField blanks_hostsBlanks
    (by decide) fun b hB => ⟨n.counts b hB, n.noBlank b hB⟩
  rw [← hPair, hostsText_eq, hostsEntry]
  simp only [List.append_assoc]

/- A line with one gets more names. -/
theorem exists_parseHost_hostsEntry
    {field rest : Bytes}
    {blank : UInt8}
    (hLine : ∀ b ∈ field ++ blank :: rest, Counts b)
    (hField : ∀ b ∈ field, isBlank b = false)
    (hBlank : isBlank blank = true) :
    ∃ e, parseHost
        (field ++ blank :: rest ++ hostsText addr n.text) =
          some e ∧
      (e.Lists aliases addr n.short ↔
        inetAddr field = addr ∧
          n.short ∈ (Strtok.tokens isBlank
            (rest ++ inetNtoa addr) ++
              Strtok.tokens isBlank n.short).take
                (nameRoom aliases)) := by
  have hRest : ∀ b ∈ rest ++ hostsEntry addr n, Counts b := by
    intro b hB
    rcases List.mem_append.mp hB with hB | hB
    · exact hLine b (List.mem_append_right _
        (List.mem_cons_of_mem blank hB))
    · exact hostsEntry_counts addr n b hB
  have hSome : Strtok.tokens isBlank
      (rest ++ hostsEntry addr n) ≠ [] := by
    rw [ne_eq, tokens_hostsEntry, List.append_eq_nil_iff,
      Strtok.tokens_eq_nil_iff]
    rintro ⟨hAll, -⟩
    obtain ⟨c, cs, hShape⟩ :=
      List.exists_cons_of_ne_nil (DbWord.ofAddr addr).some
    have hC : c ∈ inetNtoa addr := by
      change inetNtoa addr = c :: cs at hShape
      rw [hShape]
      exact List.mem_cons_self
    have hIs := hAll c (List.mem_append_right rest hC)
    rw [addr_noBlank addr c hC] at hIs
    cases hIs
  obtain ⟨e, hParse, hAddr, hWords⟩ := parseHost_words
    (fun b hB => ⟨hLine b (List.mem_append_left _ hB),
      hField b hB⟩) hBlank hRest hSome
  refine ⟨e, ?_, ?_⟩
  · rw [← hParse, hostsText_eq]
    simp only [List.append_assoc, List.cons_append]
  · rw [Hostent.Lists, names_eq aliases hWords, hAddr,
      tokens_hostsEntry]

/- What the line becomes when the new text goes behind it. -/
theorem exists_taken
    {line : Bytes}
    (hOpen : newline ∉ line) :
    ∃ added,
      (parseHost (line ++ hostsText addr n.text)).toList =
        (parseHost line).toList ++ added ∧
      ((∃ e ∈ added, e.Lists aliases addr n.short) ↔
        TakesIn aliases addr n.short line) := by
  by_cases hShut : 0 ∈ line ∨ hash ∈ line
  · refine ⟨[], ?_, ?_⟩
    · rw [parseHost_shut hShut, List.append_nil]
    · simp only [List.not_mem_nil, false_and, exists_false,
        false_iff]
      rintro ⟨hZero, hHash, -⟩
      rcases hShut with hMem | hMem
      · exact hZero hMem
      · exact hHash hMem
  · rw [not_or] at hShut
    have hCounts : ∀ b ∈ line, Counts b := by
      intro b hB
      refine ⟨fun hSame => hShut.1 (hSame ▸ hB), ?_⟩
      simp only [endsEntry, Bool.or_eq_false_iff,
        beq_eq_false_iff_ne]
      exact ⟨fun hSame => hShut.2 (hSame ▸ hB),
        fun hSame => hOpen (hSame ▸ hB)⟩
    rw [parseHost_unfinished hOpen hShut.2]
    unfold TakesIn
    rw [and_iff_right hShut.1, and_iff_right hShut.2]
    by_cases hAny : ∃ b ∈ line, isBlank b = true
    · have hIf := List.any_eq_true.mpr hAny
      obtain ⟨field, blank, rest, hBlank, hField, rfl⟩ :=
        Words.exists_first hAny
      obtain ⟨e, hParse, hLists⟩ := exists_parseHost_hostsEntry
        aliases addr n hCounts hField hBlank
      have hNot : ∀ b ∈ field, (!isBlank b) = true := by
        intro b hB
        rw [hField b hB]
        rfl
      have hFirst : firstField (field ++ blank :: rest) =
          field := by
        rw [firstField, List.takeWhile_append_of_pos hNot]
        simp [hBlank]
      have hLater : laterWords addr (field ++ blank :: rest) =
          Strtok.tokens isBlank (rest ++ inetNtoa addr) := by
        have hLead := Strtok.tokens_lead
          (List.forall_mem_singleton.mpr hBlank)
          (rest ++ inetNtoa addr)
        rw [laterWords, List.dropWhile_append_of_pos hNot,
          ← hLead]
        simp [hBlank]
      refine ⟨[e], by rw [hParse]; rfl, ?_⟩
      rw [if_pos hIf, hFirst, hLater, ← mem_take_words,
        ← hLists]
      simp only [List.mem_singleton, exists_eq_left]
    · have hNone : ∀ b ∈ line, isBlank b = false := by
        intro b hB
        rw [← Bool.not_eq_true]
        exact fun hBlank => hAny ⟨b, hB, hBlank⟩
      have hParse := parseHost_hostsEntry addr n
        fun b hB => ⟨hCounts b hB, hNone b hB⟩
      refine ⟨_, by rw [hParse]; rfl, ?_⟩
      rw [if_neg fun hIf => hAny (List.any_eq_true.mp hIf)]
      simp [Hostent.Lists, Hostent.names]

/- What is left of the new text, read as a line. -/
theorem parseHost_drop (room : Nat) :
    parseHost ((hostsEntry addr n).drop room ++ [newline]) =
      if room < (inetNtoa addr ++ hostsBlanks).length then
        some ⟨n.short, [], afInet, 4,
          inetAddr ((inetNtoa addr).drop room)⟩
      else
        none := by
  have hBlanks : hostsBlanks.length = 4 := by decide
  by_cases hIn : room < (inetNtoa addr ++ hostsBlanks).length
  · have hShape : (hostsEntry addr n).drop room =
        (inetNtoa addr).drop room ++
          hostsBlanks.drop (room - (inetNtoa addr).length) ++
            n.short := by
      rw [hostsEntry, List.drop_append_of_le_length hIn.le,
        List.drop_append]
    have hSome :
        hostsBlanks.drop (room - (inetNtoa addr).length) ≠
          [] := by
      rw [List.length_append] at hIn
      rw [ne_eq, List.drop_eq_nil_iff]
      omega
    rw [if_pos hIn, hShape]
    apply parseHost_pair
    · intro b hB
      have hMem := List.mem_of_mem_drop hB
      exact ⟨addr_counts addr b hMem,
        addr_noBlank addr b hMem⟩
    · exact fun b hB =>
        blanks_hostsBlanks b (List.mem_of_mem_drop hB)
    · exact hSome
    · exact fun b hB => ⟨n.counts b hB, n.noBlank b hB⟩
  · have hShape : (hostsEntry addr n).drop room = n.short.drop
        (room - (inetNtoa addr ++ hostsBlanks).length) := by
      rw [hostsEntry, List.drop_append,
        List.drop_eq_nil_of_le (Nat.not_lt.mp hIn),
        List.nil_append]
    rw [if_neg hIn, hShape]
    apply parseHost_noBlank
    · exact fun b hB => n.counts b (List.mem_of_mem_drop hB)
    · exact fun b hB => n.noBlank b (List.mem_of_mem_drop hB)

theorem entries_single (line : Bytes) :
    [line].filterMap parseHost = (parseHost line).toList := by
  cases hParse : parseHost line with
  | none => simp [hParse]
  | some e => simp [hParse]

theorem entries_unfinished
    {line : Bytes}
    (hOpen : newline ∉ line)
    (hShort : line.length < bufsiz - 1) :
    (fgetsAll bufsiz line).filterMap parseHost =
      (parseHost line).toList := by
  by_cases hNone : line = []
  · rw [hNone, fgetsAll_nil]
    decide
  · have hFits := @fgetsAll_fits bufsiz line false hOpen
      (by simpa [lineEnd] using hNone)
      (by simpa [lineEnd] using hShort.le)
    rw [lineEnd, if_neg Bool.false_ne_true,
      List.append_nil] at hFits
    rw [hFits, entries_single]

/- Both fit the buffer, and they are one line. -/
theorem entries_joined
    {line : Bytes}
    (hOpen : newline ∉ line)
    (hFits : (line ++ hostsText addr n.text).length ≤
      bufsiz - 1) :
    (fgetsAll bufsiz (line ++ hostsText addr n.text)).filterMap
        parseHost =
      (parseHost (line ++ hostsText addr n.text)).toList := by
  have hNone : newline ∉ line ++ hostsEntry addr n := by
    rw [List.mem_append]
    exact fun hMem => hMem.elim hOpen
      (newline_of_counts (hostsEntry_counts addr n))
  rw [hostsText_eq, ← List.append_assoc] at hFits ⊢
  have hAll := @fgetsAll_fits bufsiz
    (line ++ hostsEntry addr n) true hNone (by simp [lineEnd])
    hFits
  rw [← entries_single]
  exact congrArg (List.filterMap parseHost) hAll

/- The new text continues a line that gives what it gave. -/
theorem parseHost_continued
    {line : Bytes}
    (hOpen : newline ∉ line)
    (room : Nat) :
    parseHost (line ++ (hostsEntry addr n).take room) =
      parseHost line := by
  by_cases hShut : 0 ∈ line ∨ hash ∈ line
  · exact parseHost_shut hShut _
  · rw [not_or] at hShut
    have hNone : ∀ b, endsEntry b = true →
        b ∉ (hostsEntry addr n).take room := by
      intro b hEnds hMem
      have hCounts := hostsEntry_counts addr n b
        (List.mem_of_mem_take hMem)
      exact Bool.false_ne_true (hCounts.2.symm.trans hEnds)
    rw [parseHost_unfinished hOpen hShut.2]
    apply parseHost_unfinished
    · rw [List.mem_append]
      exact fun hMem => hMem.elim hOpen (hNone _ (by decide))
    · rw [List.mem_append]
      exact fun hMem => hMem.elim hShut.2 (hNone _ (by decide))

/- The buffer ends within the new text. -/
theorem entries_parted
    {line : Bytes}
    {room : Nat}
    (hOpen : newline ∉ line)
    (hRoom : line.length + room = bufsiz - 1)
    (hIn : room ≤ (hostsEntry addr n).length) :
    (fgetsAll bufsiz (line ++ hostsText addr n.text)).filterMap
        parseHost =
      (parseHost line).toList ++ (parseHost
        ((hostsEntry addr n).drop room ++ [newline])).toList := by
  have hEntry := newline_of_counts (hostsEntry_counts addr n)
  have hSmall := length_hostsText addr n
  rw [hostsText_eq, List.length_append,
    List.length_singleton] at hSmall
  have hFirst : newline ∉
      line ++ (hostsEntry addr n).take room := by
    rw [List.mem_append]
    exact fun hMem => hMem.elim hOpen fun hIt =>
      hEntry (List.mem_of_mem_take hIt)
  have hFull : (line ++ (hostsEntry addr n).take room).length =
      bufsiz - 1 := by
    rw [List.length_append, List.length_take,
      Nat.min_eq_left hIn, hRoom]
  have hLong := fgetsAll_long (by decide) hFirst hFull
    ((hostsEntry addr n).drop room ++ [newline])
  have hRest := @fgetsAll_fits bufsiz
    ((hostsEntry addr n).drop room) true
    (fun hMem => hEntry (List.mem_of_mem_drop hMem))
    (by simp [lineEnd])
    (by
      simp only [lineEnd, if_true, List.length_append,
        List.length_drop, List.length_singleton]
      omega)
  have hShape : line ++ hostsText addr n.text =
      line ++ (hostsEntry addr n).take room ++
        ((hostsEntry addr n).drop room ++ [newline]) := by
    conv_lhs => rw [hostsText_eq,
      ← List.take_append_drop room (hostsEntry addr n)]
    simp only [List.append_assoc]
  rw [lineEnd, if_pos rfl] at hRest
  rw [hShape, hLong, hRest, ← parseHost_continued addr n hOpen
    room, ← entries_single, ← entries_single,
    ← List.filterMap_append]
  rfl

/- Behind a newline, the new line is always read. -/
theorem joins_newline (file : Bytes) :
    Joins aliases addr n
      (unfinished bufsiz (file ++ [newline])) := by
  have hSmall := length_hostsText addr n
  unfold unfinished
  rw [unfinishedFrom_newline, Joins,
    if_pos (by simpa using hSmall.le)]
  refine ⟨List.not_mem_nil, List.not_mem_nil, ?_⟩
  rw [if_neg (by simp), List.nil_append]
  exact inetAddr_ofAddr addr

/-
  What an unfinished line gives is still given, and what is
  added to it has the host in one of two ways.
-/
theorem exists_added
    {line : Bytes}
    (hOpen : newline ∉ line)
    (hShort : line.length < bufsiz - 1) :
    ∃ added,
      (fgetsAll bufsiz (line ++ hostsText addr n.text)).filterMap
          parseHost =
        (fgetsAll bufsiz line).filterMap parseHost ++ added ∧
      ((∃ e ∈ added, e.Lists aliases addr n.short) ↔
        Joins aliases addr n line) := by
  rw [entries_unfinished hOpen hShort]
  unfold Joins
  dsimp only
  by_cases hFits : (hostsText addr n.text).length ≤
      bufsiz - 1 - line.length
  · have hAll : (line ++ hostsText addr n.text).length ≤
        bufsiz - 1 := by
      rw [List.length_append]
      omega
    rw [if_pos hFits, entries_joined addr n hOpen hAll]
    exact exists_taken aliases addr n hOpen
  · rw [if_neg hFits]
    rw [hostsText_eq, List.length_append,
      List.length_singleton] at hFits
    rw [entries_parted addr n hOpen
      (Nat.add_sub_of_le hShort.le) (by omega)]
    refine ⟨_, rfl, ?_⟩
    rw [parseHost_drop]
    by_cases hAddr : bufsiz - 1 - line.length <
        (inetNtoa addr ++ hostsBlanks).length
    · rw [if_pos hAddr, and_iff_right hAddr]
      simp [Hostent.Lists, Hostent.names]
    · rw [if_neg hAddr]
      simp only [Option.toList_none, List.not_mem_nil,
        false_and, exists_false, hAddr]

end Behind

/- A listed host is still listed behind more entries. -/
theorem listed_append
    {aliases : Bool}
    {addr : InAddr}
    {name file file' : Bytes}
    {added : List Hostent}
    (hEntries : allEntries parseHost file' =
      allEntries parseHost file ++ added) :
    Listed aliases addr name file' ↔
      Listed aliases addr name file ∨
        ∃ e ∈ added, e.Lists aliases addr name := by
  simp only [Listed, hEntries, List.mem_append, or_and_right,
    exists_or]

/-
  Whatever is in the file, and whether aliases count as names
  or not: the update does what it should if and only if the
  host is listed already, or the file can be opened, has no
  line with both texts in it, and its unfinished last line, if
  there is one, lets the new line be read as the entry.
-/
theorem hostsUpdated_iff
    (aliases opened : Bool)
    (addr : InAddr)
    (n : EnteredName)
    (file : Bytes) :
    HostsUpdated aliases opened addr n file ↔
      Listed aliases addr n.short file ∨
        opened = true ∧ ¬ Mentions addr n.short file ∧
          Joins aliases addr n (unfinished bufsiz file) := by
  have hLast := unfinished_spec (by decide : 2 ≤ bufsiz) file
  obtain ⟨lines, hLines⟩ := hLast.behind
  obtain ⟨added, hAdded, hJoins⟩ := exists_added aliases addr n
    hLast.single hLast.short
  rcases hostsUpdate_eq opened addr n file with
    ⟨hOpened, hNot, hUpdate⟩ | ⟨hNot, hUpdate⟩
  · have hEntries : allEntries parseHost
        (hostsUpdate opened addr n.text file) =
          allEntries parseHost file ++ added := by
      have hBefore := hLines []
      rw [List.append_nil, List.append_nil] at hBefore
      rw [hUpdate, allEntries_eq, allEntries_eq]
      unfold fgetsAll at hAdded hLines hBefore ⊢
      rw [hLines, hBefore, List.filterMap_append,
        List.filterMap_append, hAdded, List.append_assoc]
    rw [← hJoins, and_iff_right hOpened, and_iff_right hNot,
      ← listed_append hEntries]
    refine ⟨fun hAll => hAll.listed, fun hListed =>
      ⟨hListed, ?_⟩⟩
    rw [hEntries]
    exact List.sublist_append_left _ _
  · rw [or_iff_left fun hAll => hNot ⟨hAll.1, hAll.2.1⟩]
    constructor
    · intro hAll
      have hListed := hAll.listed
      rw [hUpdate] at hListed
      exact hListed
    · intro hListed
      constructor
      · rw [hUpdate]
        exact hListed
      · rw [hUpdate]

/- The name `host` -/
def shortHost : EnteredName where
  text := bytes "host"
  chars := by decide +kernel
  fits := by decide +kernel

/-
  A line that has both texts only within others is taken for
  the entry; a line without a newline takes the new one in.
-/
theorem entry_missed :
    (¬ ∃ aliases, HostsUpdated aliases true ⟨10, 0, 0, 1⟩
      shortHost (bytes "110.0.0.1 hostage\n")) ∧
    ¬ ∃ aliases, HostsUpdated aliases true ⟨10, 0, 0, 1⟩
      shortHost (bytes "1.2.3.4 a") := by
  constructor
  · rintro ⟨aliases, hAll⟩
    obtain ⟨e, hMem, hAddr, -⟩ := hAll.listed
    have hNone : ∀ e ∈ (fgetsAll bufsiz (hostsUpdate true
        ⟨10, 0, 0, 1⟩ shortHost.text
          (bytes "110.0.0.1 hostage\n"))).filterMap parseHost,
        e.addr ≠ ⟨10, 0, 0, 1⟩ := by decide +kernel
    rw [allEntries_eq] at hMem
    exact hNone e hMem hAddr
  · rintro ⟨aliases, hAll⟩
    obtain ⟨e, hMem, hAddr, -⟩ := hAll.listed
    have hNone : ∀ e ∈ (fgetsAll bufsiz (hostsUpdate true
        ⟨10, 0, 0, 1⟩ shortHost.text
          (bytes "1.2.3.4 a"))).filterMap parseHost,
        e.addr ≠ ⟨10, 0, 0, 1⟩ := by decide +kernel
    rw [allEntries_eq] at hMem
    exact hNone e hMem hAddr

end Libsocket
