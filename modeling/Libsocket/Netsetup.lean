import Libsocket.Dnsaddr.Servers

/-
  The configuration files that the program `netsetup` writes,
  and what the library reads from them.

  Main declarations:
    * `NetsetupInput`
    * `lsckCfg`, `resolvCfg`
    * `FilesAgree`
    * `filesAgree_iff`, `second_server_only`
-/

namespace Libsocket

------------------------------------------------------------
-- Writing
------------------------------------------------------------

/- A line of a configuration file, without its newline. -/
inductive CfgLine
  | note (text : Bytes)
  | entry (key value : Bytes)
deriving DecidableEq, Repr

def CfgLine.text : CfgLine → Bytes
| .note text => text
| .entry key value => key ++ equals :: value

def CfgLine.pair? : CfgLine → Option (Bytes × Bytes)
| .note _ => none
| .entry key value => some (key, value)

/- Lines that are printed one after the other. -/
def printLines (lines : List Bytes) : Bytes :=
  lines.flatMap fun line => line ++ [newline]

/- The head of `lsck.cfg`. -/
def lsckCfgHeader : List Bytes :=
  [bytes "# lsck.cfg",
    bytes "# libsocket configuration file",
    bytes "# Created by netsetup",
    bytes "#",
    []]

/- The section `[main]` of `lsck.cfg`. -/
def lsckCfgMain
    (hostName lsckDir winDir : Bytes) : List CfgLine :=
  [.entry (bytes "hostname") hostName,
    .note [],
    .note (bytes "# Use some Windows configuration files"),
    .entry (bytes "hosts") (winDir ++ bytes "/hosts"),
    .entry (bytes "networks") (winDir ++ bytes "/networks"),
    .entry (bytes "services") (winDir ++ bytes "/services"),
    .entry (bytes "protocols") (winDir ++ bytes "/protocol"),
    .note [],
    .note (bytes "# Resolver configuration files"),
    .entry (bytes "host.conf") (lsckDir ++ bytes "/host.cfg"),
    .entry (bytes "resolv.conf")
      (lsckDir ++ bytes "/resolv.cfg"),
    .note [],
    .note (bytes "# Global remote auto-login files"),
    .entry (bytes "hosts.equiv")
      (lsckDir ++ bytes "/hosts.equ"),
    .entry (bytes ".rhosts") (lsckDir ++ bytes "/rhosts"),
    .entry (bytes ".netrc") (lsckDir ++ bytes "/netrc"),
    .note []]

def lsckCfg (hostName lsckDir winDir : Bytes) : Bytes :=
  printLines (lsckCfgHeader ++ bytes "[main]" ::
    (lsckCfgMain hostName lsckDir winDir).map CfgLine.text)

/- The head of `resolv.cfg`. -/
def resolvCfgHeader : List Bytes :=
  [bytes "# resolv.conf",
    bytes "# Resolver configuration file",
    bytes "# Created by netsetup",
    []]

/- The addresses in an array of `room`, up to the first 0. -/
def dnsLines : Nat → List InAddr → List Bytes
| 0, _ => []
| _, [] => []
| room + 1, a :: rest =>
    if a = InAddr.any then
      []
    else
      nameserverLine a :: dnsLines room rest

def resolvCfg (dnsAddr : List InAddr) : Bytes :=
  printLines (resolvCfgHeader ++ dnsLines maxNs dnsAddr)

/- The files that `netsetup` writes for the library. -/
def netsetupFiles
    (hostName lsckDir winDir : Bytes)
    (dnsAddr : List InAddr)
    (path : Bytes) : Option Bytes :=
  if path = lsckDir ++ bytes "/lsck.cfg" then
    some (lsckCfg hostName lsckDir winDir)
  else if path = lsckDir ++ bytes "/resolv.cfg" then
    some (resolvCfg dnsAddr)
  else
    none

------------------------------------------------------------
-- What Is Entered
------------------------------------------------------------

/- A letter, a digit, a dot or a hyphen. -/
def isHostChar (c : UInt8) : Bool :=
  isDigit c || isLower c || c == fullStop || c == 45 ||
    decide (65 ≤ c.toNat ∧ c.toNat ≤ 90)

/- A character of a text that is not white space. -/
def isVisible (c : UInt8) : Bool :=
  c != 0 && !isSpace c

/-
  What is entered: names that give lines which fit the line
  buffer, and some addresses of name servers.
-/
structure NetsetupInput where
  hostName : Bytes
  lsckDir : Bytes
  winDir : Bytes
  dnsAddr : List InAddr
  host : ∀ c ∈ hostName, isHostChar c = true
  lsck : ∀ c ∈ lsckDir, isVisible c = true
  win : ∀ c ∈ winDir, isVisible c = true
  fits : ∀ line ∈ lsckCfgMain hostName lsckDir winDir,
    line.text.length + 1 ≤ iniBufSize - 1
  present : 1 ≤ dnsAddr.length
  few : dnsAddr.length ≤ maxNs
  nonzero : ∀ a ∈ dnsAddr, a ≠ InAddr.any

namespace NetsetupInput

/- The keys of `[main]`, with the values that are written. -/
def written (x : NetsetupInput) : List (Bytes × Bytes) :=
  (lsckCfgMain x.hostName x.lsckDir x.winDir).filterMap
    CfgLine.pair?

def cfg (x : NetsetupInput) : Bytes :=
  lsckCfg x.hostName x.lsckDir x.winDir

def files (x : NetsetupInput) : Bytes → Option Bytes :=
  netsetupFiles x.hostName x.lsckDir x.winDir x.dnsAddr

end NetsetupInput

/- Every key of `[main]` is read as it was written. -/
def CfgAgrees (x : NetsetupInput) : Prop :=
  ∀ junk key value deflt dest destsize,
    (key, value) ∈ x.written →
    value.length < destsize → destsize ≤ dest.length →
    (∀ text, deflt = some text → CString.IsText text) →
      ∃ dest', getPrivateProfileString junk
          (some (bytes "main")) (some key) deflt dest destsize
          (some x.cfg) = some (dest', value.length) ∧
        CString.read? dest' = some value

/- The addresses are read in the order they were entered. -/
def DnsAgrees (x : NetsetupInput) : Prop :=
  ∀ env : ResolvEnv, env.memory = true →
    ∃ array, resolvConfGetdnsaddrs env
        (some (x.lsckDir ++ bytes "/lsck.cfg")) x.files =
          some (some array) ∧
      (nameservers array).map inetAton =
        x.dnsAddr.map some

/- The program and the library agree on both files. -/
def FilesAgree (x : NetsetupInput) : Prop :=
  CfgAgrees x ∧ DnsAgrees x

------------------------------------------------------------
-- Printed Lines
------------------------------------------------------------

theorem physicalLines_append
    {text : Bytes}
    (hText : newline ∉ text)
    (line rest : Bytes) :
    physicalLines line (text ++ newline :: rest) =
      (line ++ text ++ [newline]) :: physicalLines [] rest := by
  induction text generalizing line with
  | nil => simp [physicalLines]
  | cons b bs ih =>
      have hB : b ≠ newline := fun h => hText (by simp [h])
      have hBs : newline ∉ bs := fun h => hText (by simp [h])
      rw [List.cons_append, physicalLines, if_neg hB, ih hBs]
      simp

/- Printed lines are the lines of the file. -/
theorem physicalLines_printLines
    {lines : List Bytes}
    (hLines : ∀ line ∈ lines, newline ∉ line) :
    physicalLines [] (printLines lines) =
      lines.map fun line => line ++ [newline] := by
  induction lines with
  | nil => rfl
  | cons line lines ih =>
      have hShape : printLines (line :: lines) =
          line ++ newline :: printLines lines := by
        simp [printLines]
      rw [hShape,
        physicalLines_append (hLines line List.mem_cons_self),
        ih fun l hL => hLines l (List.mem_cons_of_mem _ hL)]
      simp

/- A line without white space in it, and its newline. -/
theorem trimmed_line
    {text : Bytes}
    (hText : ∀ c ∈ text, isSpace c = false) :
    trimmed (text ++ [newline]) = text := by
  rw [trimmed_newline, trimmed, Trim.trim_eq_self hText]

------------------------------------------------------------
-- Entries
------------------------------------------------------------

/- What the key of an entry looks like. -/
structure IsKey (key : Bytes) : Prop where
  text : CString.IsText key
  plain : ∀ c ∈ key, isSpace c = false ∧ c ≠ equals
  first : key.head?.any (fun c =>
    c != semicolon && c != hash && c != leftBracket) = true

instance (key : Bytes) : Decidable (IsKey key) :=
  decidable_of_iff
    (CString.IsText key ∧
      key.all (fun c => !isSpace c && c != equals) = true ∧
      key.head?.any (fun c =>
        c != semicolon && c != hash && c != leftBracket) = true)
    ⟨fun ⟨hText, hPlain, hFirst⟩ =>
        ⟨hText, by simpa using hPlain, hFirst⟩,
      fun ⟨hText, hPlain, hFirst⟩ =>
        ⟨hText, by simpa using hPlain, hFirst⟩⟩

/- An entry is read as its key and its value. -/
theorem pairOf?_entry
    {key value : Bytes}
    (hKey : IsKey key)
    (hValue : ∀ c ∈ value, isSpace c = false) :
    Libsocket.pairOf?
      ((CfgLine.entry key value).text ++ [newline]) =
        some (key, value) := by
  have hPlain : ∀ c ∈ key ++ equals :: value,
      isSpace c = false := by
    intro c hC
    rw [List.mem_append, List.mem_cons] at hC
    rcases hC with hC | rfl | hC
    · exact (hKey.plain c hC).1
    · decide
    · exact hValue c hC
  have hLine := trimmed_line hPlain
  have hOut : equals ∉ key := fun h => (hKey.plain _ h).2 rfl
  rcases (Option.any_eq_true _ _).mp hKey.first with
    ⟨c, hHead, hNotes⟩
  simp only [Bool.and_eq_true, bne_iff_ne] at hNotes
  have hFirst : (key ++ equals :: value).head? = some c := by
    rw [List.head?_append, hHead]
    rfl
  have hBefore : Cut.before equals
      ((CfgLine.entry key value).text ++ [newline]) = key := by
    rw [CfgLine.text, List.append_assoc, List.cons_append]
    exact Cut.before_append hOut _
  have hAfter : Cut.after equals
      ((CfgLine.entry key value).text ++ [newline]) =
        value ++ [newline] := by
    rw [CfgLine.text, List.append_assoc, List.cons_append]
    exact Cut.after_append hOut _
  unfold Libsocket.pairOf?
  rw [hBefore, hAfter, trimmed_line hValue, if_pos]
  · rw [trimmed, Trim.trim_eq_self fun c hC =>
      (hKey.plain c hC).1]
  · unfold IsComment headerName?
    rw [CfgLine.text, hLine, hFirst]
    refine ⟨by simp, ?_, ?_, by simp⟩
    · simp [hNotes.1.1, hNotes.1.2]
    · simp [hNotes.2]

/- A line that is neither a header nor an entry. -/
def IsNote (line : Bytes) : Prop :=
  headerName? (line ++ [newline]) = none ∧
    Libsocket.pairOf? (line ++ [newline]) = none

instance (line : Bytes) : Decidable (IsNote line) :=
  inferInstanceAs (Decidable (_ ∧ _))

/- Notes in front of other lines give nothing. -/
theorem lookup_notes
    {appname keyname : Bytes}
    {inSection : Bool}
    {notes : List Bytes}
    (hNotes : ∀ line ∈ notes, IsNote line)
    (rest : List Bytes) :
    lookup appname keyname inSection
        (notes.map (· ++ [newline]) ++ rest) =
      lookup appname keyname inSection rest := by
  induction notes with
  | nil => rfl
  | cons line notes ih =>
      rcases hNotes line List.mem_cons_self with
        ⟨hHeader, hEntry⟩
      rw [List.map_cons, List.cons_append, lookup,
        sectionAfter, hHeader, hEntry, if_neg (by simp)]
      exact ih fun l hL => hNotes l (List.mem_cons_of_mem _ hL)

/- A line of a section that is a note or an entry. -/
def CfgLine.Proper : CfgLine → Prop
| .note text =>
    IsNote text ∧ newline ∉ text ∧ CString.IsText text
| .entry key value =>
    IsKey key ∧ ∀ c ∈ value, isVisible c = true

theorem isVisible_iff (c : UInt8) :
    isVisible c = true ↔ c ≠ 0 ∧ isSpace c = false := by
  simp [isVisible]

/- In a section, every key gives its value. -/
theorem lookup_section
    {appname key value : Bytes}
    {lines : List CfgLine}
    (hProper : ∀ line ∈ lines, line.Proper)
    (hKeys : ((lines.filterMap CfgLine.pair?).map
      Prod.fst).Nodup)
    (hMem : (key, value) ∈ lines.filterMap CfgLine.pair?) :
    lookup appname key true
      (lines.map fun line => line.text ++ [newline]) =
        some value := by
  induction lines with
  | nil => cases hMem
  | cons line lines ih =>
      have hRest : ∀ l ∈ lines, l.Proper := fun l hL =>
        hProper l (List.mem_cons_of_mem _ hL)
      have hHere := hProper line List.mem_cons_self
      rw [List.map_cons, lookup]
      cases line with
      | note text =>
          rcases hHere with ⟨⟨hHeader, hEntry⟩, -⟩
          rw [CfgLine.text, sectionAfter, hHeader, hEntry,
            if_neg (by simp)]
          exact ih hRest hKeys hMem
      | entry key' value' =>
          have hEntry := pairOf?_entry hHere.1 fun c hC =>
            ((isVisible_iff c).mp (hHere.2 c hC)).2
          rw [hEntry, sectionAfter, headerName?_of_entry hEntry]
          simp only [List.filterMap_cons, CfgLine.pair?,
            List.map_cons, List.nodup_cons] at hKeys
          simp only [List.filterMap_cons, CfgLine.pair?,
            List.mem_cons, Prod.mk.injEq] at hMem
          rcases hMem with ⟨rfl, rfl⟩ | hMem
          · simp
          · have hOther : key' ≠ key := by
              rintro rfl
              exact hKeys.1 (List.mem_map_of_mem hMem)
            rw [if_neg (by simp [hOther])]
            exact ih hRest hKeys.2 hMem

------------------------------------------------------------
-- The Section `[main]`
------------------------------------------------------------

theorem isVisible_of_isHostChar
    {c : UInt8}
    (hHost : isHostChar c = true) :
    isVisible c = true := by
  have hAll : ∀ n : Fin 256,
      isHostChar (UInt8.ofNat n.val) = true →
        isVisible (UInt8.ofNat n.val) = true := by
    decide +kernel
  have hByte := hAll ⟨c.toNat, c.toNat_lt⟩
  rw [UInt8.ofNat_toNat] at hByte
  exact hByte hHost

/- A line of a section is a line of the file, and a text. -/
theorem CfgLine.Proper.plain
    {line : CfgLine}
    (hProper : line.Proper) :
    newline ∉ line.text ∧ CString.IsText line.text := by
  cases line with
  | note text => exact hProper.2
  | entry key value =>
      have hKey := hProper.1
      have hValue : ∀ c ∈ value, c ≠ 0 ∧ isSpace c = false :=
        fun c hC => (isVisible_iff c).mp (hProper.2 c hC)
      have hNewline : isSpace newline = true := by decide
      constructor
      · intro hMem
        rw [CfgLine.text, List.mem_append, List.mem_cons]
          at hMem
        rcases hMem with hMem | hMem | hMem
        · rw [(hKey.plain _ hMem).1] at hNewline
          cases hNewline
        · exact absurd hMem (by decide)
        · rw [(hValue _ hMem).2] at hNewline
          cases hNewline
      · intro c hC
        rw [CfgLine.text, List.mem_append, List.mem_cons] at hC
        rcases hC with hC | rfl | hC
        · exact hKey.text c hC
        · decide
        · exact (hValue c hC).1

namespace NetsetupInput

variable (x : NetsetupInput)

theorem proper :
    ∀ line ∈ lsckCfgMain x.hostName x.lsckDir x.winDir,
      line.Proper := by
  have hFile : ∀ {key dir name : Bytes}, IsKey key →
      (∀ c ∈ dir, isVisible c = true) →
      (∀ c ∈ name, isVisible c = true) →
      (CfgLine.entry key (dir ++ name)).Proper := by
    intro key dir name hKey hLeft hRight
    refine ⟨hKey, fun c hC => ?_⟩
    rcases List.mem_append.mp hC with h | h
    · exact hLeft c h
    · exact hRight c h
  have hNote : ∀ {text : Bytes},
      IsNote text ∧ newline ∉ text ∧ CString.IsText text →
        (CfgLine.note text).Proper := id
  unfold lsckCfgMain
  simp only [List.forall_mem_cons]
  refine ⟨⟨by decide +kernel, fun c hC =>
      isVisible_of_isHostChar (x.host c hC)⟩,
    hNote (by decide +kernel), hNote (by decide +kernel),
    hFile (by decide +kernel) x.win (by decide +kernel),
    hFile (by decide +kernel) x.win (by decide +kernel),
    hFile (by decide +kernel) x.win (by decide +kernel),
    hFile (by decide +kernel) x.win (by decide +kernel),
    hNote (by decide +kernel), hNote (by decide +kernel),
    hFile (by decide +kernel) x.lsck (by decide +kernel),
    hFile (by decide +kernel) x.lsck (by decide +kernel),
    hNote (by decide +kernel), hNote (by decide +kernel),
    hFile (by decide +kernel) x.lsck (by decide +kernel),
    hFile (by decide +kernel) x.lsck (by decide +kernel),
    hFile (by decide +kernel) x.lsck (by decide +kernel),
    hNote (by decide +kernel), by simp⟩

/- The lines of the file, as they are read. -/
theorem physicalLines_cfg :
    physicalLines [] x.cfg =
      lsckCfgHeader.map (· ++ [newline]) ++
        (bytes "[main]" ++ [newline]) ::
          (lsckCfgMain x.hostName x.lsckDir x.winDir).map
            fun line => line.text ++ [newline] := by
  unfold cfg lsckCfg
  rw [physicalLines_printLines]
  · simp
  · intro line hLine
    rw [List.mem_append, List.mem_cons, List.mem_map] at hLine
    rcases hLine with hLine | rfl | ⟨l, hL, rfl⟩
    · revert hLine line
      decide
    · decide
    · exact (x.proper l hL).plain.1

/- They fit the buffer, and hold no NUL. -/
theorem physicalLines_cfg_fit :
    ∀ line ∈ physicalLines [] x.cfg,
      line.length ≤ iniBufSize - 1 ∧ CString.IsText line := by
  intro line hLine
  rw [x.physicalLines_cfg, List.mem_append, List.mem_cons]
    at hLine
  rcases hLine with hLine | rfl | hLine
  · revert hLine line
    decide
  · decide
  · rcases List.mem_map.mp hLine with ⟨l, hL, rfl⟩
    constructor
    · rw [List.length_append, List.length_singleton]
      exact x.fits l hL
    · exact (x.proper l hL).plain.2.append (by decide)

theorem keys_nodup : (x.written.map Prod.fst).Nodup := by
  have hKeys : x.written.map Prod.fst =
      [bytes "hostname", bytes "hosts", bytes "networks",
        bytes "services", bytes "protocols",
        bytes "host.conf", bytes "resolv.conf",
        bytes "hosts.equiv", bytes ".rhosts",
        bytes ".netrc"] := rfl
  rw [hKeys]
  decide

/- Looking up a key gives the value that was written. -/
theorem lookup_written
    {key value : Bytes}
    (hMem : (key, value) ∈ x.written) :
    lookup (bytes "main") key false (physicalLines [] x.cfg) =
      some value := by
  have hMain : headerName? (bytes "[main]" ++ [newline]) =
      some (bytes "main") := by decide
  have hNone : Libsocket.pairOf?
      (bytes "[main]" ++ [newline]) = none := by decide
  rw [x.physicalLines_cfg, lookup_notes (by decide), lookup,
    hNone, if_neg (by simp), sectionAfter, hMain]
  exact lookup_section x.proper x.keys_nodup hMem

end NetsetupInput

theorem cfgAgrees (x : NetsetupInput) : CfgAgrees x := by
  intro junk key value deflt dest destsize hMem hSize hRoom
    hDefault
  rcases @getPrivateProfileString_eq junk (bytes "main") key
      _ _ _ _ hRoom (by omega) hDefault
      x.physicalLines_cfg_fit with
    ⟨dest', hGets, hRun⟩
  rw [x.lookup_written hMem] at hGets hRun
  have hWhole : value.take (destsize - 1) = value :=
    List.take_of_length_le (by omega)
  have hReads := hGets.reads
  simp only [Option.getD_some, hWhole] at hReads hRun
  exact ⟨dest', hRun, hReads⟩

------------------------------------------------------------
-- Name Servers
------------------------------------------------------------

/- All addresses that were entered are written. -/
theorem dnsLines_eq
    {room : Nat}
    {addresses : List InAddr}
    (hFew : addresses.length ≤ room)
    (hNonzero : ∀ a ∈ addresses, a ≠ InAddr.any) :
    dnsLines room addresses = addresses.map nameserverLine := by
  induction addresses generalizing room with
  | nil => cases room <;> rfl
  | cons a rest ih =>
      rw [List.length_cons] at hFew
      cases room with
      | zero => omega
      | succ room =>
          rw [dnsLines, if_neg (hNonzero a List.mem_cons_self),
            ih (by omega) fun b hB =>
              hNonzero b (List.mem_cons_of_mem _ hB)]
          rfl

theorem length_nameserverLine (a : InAddr) :
    (nameserverLine a ++ [newline]).length ≤ 27 := by
  have hKey : nameserverKey.length = 10 := by decide
  have hAddress := length_inetNtoa a
  simp only [nameserverLine, List.length_append,
    List.length_singleton, hKey]
  omega

theorem newline_not_mem_nameserverLine (a : InAddr) :
    newline ∉ nameserverLine a := by
  intro hMem
  rw [nameserverLine, List.mem_append] at hMem
  rcases hMem with hMem | hMem
  · revert hMem
    decide
  · have hIs := isAddressChar_inetNtoa hMem
    exact absurd hIs (by decide)

/- The lines of the file, as they are read. -/
theorem fgetsAll_resolvCfg
    {addresses : List InAddr}
    (hFew : addresses.length ≤ maxNs)
    (hNonzero : ∀ a ∈ addresses, a ≠ InAddr.any) :
    fgetsAll iniBufSize (resolvCfg addresses) =
      resolvCfgHeader.map (· ++ [newline]) ++
        addresses.map fun a =>
          nameserverLine a ++ [newline] := by
  have hLines : physicalLines [] (resolvCfg addresses) =
      resolvCfgHeader.map (· ++ [newline]) ++
        addresses.map fun a =>
          nameserverLine a ++ [newline] := by
    unfold resolvCfg
    rw [dnsLines_eq hFew hNonzero, physicalLines_printLines]
    · simp
    · intro line hLine
      rcases List.mem_append.mp hLine with hHead | hLine
      · clear hLine
        revert hHead line
        decide
      · rcases List.mem_map.mp hLine with ⟨a, -, rfl⟩
        exact newline_not_mem_nameserverLine a
  rw [fgetsAll_eq, hLines]
  intro line hLine
  rw [hLines, List.mem_append] at hLine
  rcases hLine with hLine | hLine
  · revert hLine line
    decide
  · rcases List.mem_map.mp hLine with ⟨a, -, rfl⟩
    have hLength := length_nameserverLine a
    simp only [iniBufSize]
    omega

/- The servers that are read are those that were written. -/
theorem readServers_resolvCfg
    {addresses : List InAddr}
    (hFew : addresses.length ≤ maxNs)
    (hNonzero : ∀ a ∈ addresses, a ≠ InAddr.any) :
    readServers (resolvCfg addresses) =
      addresses.map inetNtoa := by
  have hHeader : (resolvCfgHeader.map
      (· ++ [newline])).filterMap serverOf? = [] := by
    decide +kernel
  have hNames : (serverOf? ∘ fun a =>
      nameserverLine a ++ [newline]) = some ∘ inetNtoa :=
    funext serverOf?_nameserverLine
  rw [readServers_eq, fgetsAll_resolvCfg hFew hNonzero,
    List.filterMap_append, hHeader, List.nil_append,
    List.filterMap_map, hNames]
  exact congrFun List.filterMap_eq_map addresses

namespace NetsetupInput

variable (x : NetsetupInput)

theorem dnsAddr_ne_nil : x.dnsAddr ≠ [] := by
  intro hNone
  have hPresent := x.present
  rw [hNone, List.length_nil] at hPresent
  omega

/- The library finds the file that `netsetup` wrote. -/
theorem resolvConf_written :
    (bytes "resolv.conf",
      x.lsckDir ++ bytes "/resolv.cfg") ∈ x.written := by
  simp [written, lsckCfgMain, CfgLine.pair?]

theorem resolvConf_short :
    (x.lsckDir ++ bytes "/resolv.cfg").length < pathMax := by
  have hLine := x.fits (.entry (bytes "resolv.conf")
    (x.lsckDir ++ bytes "/resolv.cfg"))
    (by simp [lsckCfgMain])
  simp only [CfgLine.text, List.length_append,
    List.length_cons, iniBufSize, pathMax] at hLine ⊢
  omega

/- The configuration file leads to the other file. -/
theorem resolvFile_written :
    resolvFile (some (x.lsckDir ++ bytes "/lsck.cfg"))
      x.files = some (resolvCfg x.dnsAddr) := by
  have hFirst : x.files (x.lsckDir ++ bytes "/lsck.cfg") =
      some x.cfg := if_pos rfl
  have hNames : x.lsckDir ++ bytes "/resolv.cfg" ≠
      x.lsckDir ++ bytes "/lsck.cfg" := by
    intro hSame
    exact absurd (List.append_cancel_left hSame) (by decide)
  have hSecond : x.files (x.lsckDir ++ bytes "/resolv.cfg") =
      some (resolvCfg x.dnsAddr) := by
    unfold files netsetupFiles
    rw [if_neg hNames, if_pos rfl]
  have hValue : valueIn (some x.cfg) (bytes "main")
      (bytes "resolv.conf") =
        some (x.lsckDir ++ bytes "/resolv.cfg") := by
    unfold valueIn
    rw [Option.bind_some, iniTexts_of_fit x.physicalLines_cfg_fit]
    exact x.lookup_written x.resolvConf_written
  have hShort := x.resolvConf_short
  unfold resolvFile
  rw [Option.bind_some, hFirst, hValue, Option.getD_some,
    List.take_of_length_le (by omega)]
  exact hSecond

/- What is read is the last of the addresses, by itself. -/
theorem nameservers_read
    {env : ResolvEnv}
    (hMemory : env.memory = true) :
    ∃ array, resolvConfGetdnsaddrs env
        (some (x.lsckDir ++ bytes "/lsck.cfg")) x.files =
          some (some array) ∧
      nameservers array =
        [inetNtoa (x.dnsAddr.getLast x.dnsAddr_ne_nil)] := by
  rw [resolvConfGetdnsaddrs_eq, x.resolvFile_written,
    Option.bind_some, if_pos hMemory,
    readServers_resolvCfg x.few x.nonzero]
  refine ⟨_, rfl, ?_⟩
  rw [nameservers_nullTerminated, List.getLast?_map,
    List.getLast?_eq_getLast_of_ne_nil x.dnsAddr_ne_nil]
  rfl

end NetsetupInput

theorem dnsAgrees_iff (x : NetsetupInput) :
    DnsAgrees x ↔ x.dnsAddr.length = 1 := by
  constructor
  · intro hAgrees
    rcases hAgrees ⟨fun _ => 0, fun _ => 0, fun _ => 0, true⟩
      rfl with ⟨array, hRun, hSame⟩
    rcases @NetsetupInput.nameservers_read x
      ⟨fun _ => 0, fun _ => 0, fun _ => 0, true⟩ rfl with
    ⟨array', hRun', hLast⟩
    rw [hRun] at hRun'
    cases hRun'
    rw [hLast] at hSame
    have hLength := congrArg List.length hSame
    simpa using hLength.symm
  · intro hOne env hMemory
    rcases x.nameservers_read hMemory with
      ⟨array, hRun, hLast⟩
    refine ⟨array, hRun, ?_⟩
    rcases List.length_eq_one_iff.mp hOne with ⟨a, hA⟩
    rw [hLast, List.map_singleton, inetAton_inetNtoa]
    simp only [hA, List.getLast_singleton, List.map_singleton]

/- Both files agree if there is just one name server. -/
theorem filesAgree_iff (x : NetsetupInput) :
    FilesAgree x ↔ x.dnsAddr.length = 1 := by
  constructor
  · intro hAgree
    exact (dnsAgrees_iff x).mp hAgree.2
  · intro hOne
    exact ⟨cfgAgrees x, (dnsAgrees_iff x).mpr hOne⟩

/- Two name servers, of which the library finds the second. -/
def twoServers : NetsetupInput where
  hostName := bytes "pc.example"
  lsckDir := bytes "c:/lsck"
  winDir := bytes "c:/windows"
  dnsAddr := [⟨192, 168, 1, 1⟩, ⟨192, 168, 1, 2⟩]
  host := by decide +kernel
  lsck := by decide +kernel
  win := by decide +kernel
  fits := by decide +kernel
  present := by decide +kernel
  few := by decide +kernel
  nonzero := by decide +kernel

theorem second_server_only :
    ¬ ∀ x : NetsetupInput, FilesAgree x := by
  intro hAlways
  have hOne := (dnsAgrees_iff twoServers).mp
    (hAlways twoServers).2
  exact absurd hOne (by decide)

end Libsocket
