import Libsocket.Dnsaddr
import Libsocket.Ini.Texts

/-
  The name servers that the resolver's configuration file
  names, and the list that is made of them.

  Main declarations:
    * `namedServers`, `readServers`
    * `resolvConfGetdnsaddrs_eq`
    * `ServersLaw`, `OneServer`
    * `servers_law_iff`
-/

namespace Libsocket

------------------------------------------------------------
-- Servers Of A File
------------------------------------------------------------

/- The servers that the lines of a file name, in order. -/
def namedServers (file : Bytes) : List Bytes :=
  (physicalLines [] file).filterMap serverOf?

/- Those that are found in the pieces that `fgets` reads. -/
def readServers (file : Bytes) : List Bytes :=
  (iniTexts file).filterMap serverOf?

/- A list with its `NULL`, in an array of `MAXNS + 1`. -/
def nullTerminated (names : List Bytes) :
    List (Option Bytes) :=
  names.map some ++
    List.replicate (maxNs + 1 - names.length) none

theorem nameservers_append_none
    (names : List Bytes)
    {rest : List (Option Bytes)}
    (hRest : rest.head? = some none ∨ rest = []) :
    nameservers (names.map some ++ rest) = names := by
  induction names with
  | nil =>
      rcases rest with _ | ⟨_ | address, rest⟩
      · rfl
      · rfl
      · rcases hRest with hHead | hNil
        · cases hHead
        · cases hNil
  | cons name names ih =>
      exact congrArg (List.cons name) ih

@[simp] theorem nameservers_nullTerminated
    (names : List Bytes) :
    nameservers (nullTerminated names) = names := by
  apply nameservers_append_none
  cases maxNs + 1 - names.length with
  | zero => exact .inr rfl
  | succ n => exact .inl rfl

/- A NUL ends the text of a line, not only of its address. -/
theorem dropWhile_lineText
    {p : UInt8 → Bool}
    (hNul : p 0 = false)
    (read : Bytes) :
    (lineText read).dropWhile p =
      lineText (read.dropWhile p) := by
  unfold lineText
  induction read with
  | nil => rfl
  | cons b bs ih =>
      by_cases hZero : b = 0
      · subst hZero
        rw [List.takeWhile_cons_of_neg (by simp),
          List.dropWhile_cons_of_neg (by simp [hNul]),
          List.takeWhile_cons_of_neg (by simp)]
        rfl
      · rw [List.takeWhile_cons_of_pos (by simpa using hZero)]
        cases hB : p b with
        | false =>
            rw [List.dropWhile_cons_of_neg (by simp [hB]),
              List.dropWhile_cons_of_neg (by simp [hB]),
              List.takeWhile_cons_of_pos
                (by simpa using hZero)]
        | true =>
            rw [List.dropWhile_cons_of_pos hB, ih,
              List.dropWhile_cons_of_pos hB]

theorem takeWhile_lineText
    {p : UInt8 → Bool}
    (hNul : p 0 = false)
    (read : Bytes) :
    (lineText read).takeWhile p = read.takeWhile p := by
  unfold lineText
  rw [List.takeWhile_takeWhile]
  congr 1
  funext b
  by_cases hZero : b = 0
  · rw [hZero, hNul]
    rfl
  · simp [hZero]

/- A key without NULs lies in the text or not at all. -/
theorem lineText_take_drop
    {key : Bytes}
    (hKey : CString.IsText key)
    (rest : Bytes) :
    ((lineText rest).take key.length = key ↔
      rest.take key.length = key) ∧
    (rest.take key.length = key →
      (lineText rest).drop key.length =
        lineText (rest.drop key.length)) := by
  have hBehind : ∀ behind, lineText (key ++ behind) =
      key ++ lineText behind := by
    intro behind
    unfold lineText
    rw [List.takeWhile_append_of_pos]
    intro b hB
    simpa using hKey b hB
  have hParts := List.take_append_drop key.length rest
  refine ⟨⟨?_, ?_⟩, ?_⟩
  · intro hSame
    have hPrefix : key <+: rest := by
      rw [← hSame]
      exact (List.take_prefix _ _).trans
        (List.takeWhile_prefix _)
    exact (List.prefix_iff_eq_take.mp hPrefix).symm
  · intro hSame
    rw [hSame] at hParts
    rw [← hParts, hBehind, List.take_left]
  · intro hSame
    rw [hSame] at hParts
    rw [← hParts, hBehind, List.drop_left, List.drop_left]

/- NULs do not change which server a line names. -/
theorem serverOf?_lineText (read : Bytes) :
    serverOf? (lineText read) = serverOf? read := by
  have hKey : CString.IsText nameserverKey := by decide
  unfold serverOf?
  dsimp only
  rw [dropWhile_lineText (by decide)]
  generalize read.dropWhile isSpace = rest
  rcases lineText_take_drop hKey rest with ⟨hSame, hDrop⟩
  by_cases hIs : rest.take nameserverKey.length =
      nameserverKey
  · rw [hDrop hIs, dropWhile_lineText (by decide),
      takeWhile_lineText (by decide), hSame.mpr hIs, hIs]
    generalize rest.drop nameserverKey.length = behind
    have hHead : isSpace ((lineText behind).head?.getD 0) =
        isSpace (behind.head?.getD 0) := by
      cases behind with
      | nil => rfl
      | cons b bs =>
          by_cases hZero : b = 0
          · subst hZero
            rfl
          · rw [lineText, List.takeWhile_cons_of_pos
              (by simpa using hZero)]
            rfl
    rw [hHead]
  · rw [if_neg fun h => hIs (hSame.mp h.1),
      if_neg fun h => hIs h.1]

theorem readServers_eq (file : Bytes) :
    readServers file =
      (fgetsAll iniBufSize file).filterMap serverOf? := by
  unfold readServers iniTexts
  rw [List.filterMap_map]
  congr 1
  funext read
  exact serverOf?_lineText read

/- Lines that fit the line buffer are read one by one. -/
theorem readServers_of_fit
    {file : Bytes}
    (hFit : ∀ line ∈ physicalLines [] file,
      line.length ≤ iniBufSize - 1) :
    readServers file = namedServers file := by
  rw [readServers_eq, fgetsAll_eq hFit]
  rfl

------------------------------------------------------------
-- The Loop
------------------------------------------------------------

/- The loop as it is entered. -/
def ResolvState.start (env : ResolvEnv) : ResolvState where
  buf := List.ofFn env.buf
  dnsaddrs := List.replicate (maxNs + 1) none
  count := 0

theorem ResolvState.length_start (env : ResolvEnv) :
    (ResolvState.start env).buf.length = iniBufSize := by
  rw [ResolvState.start, List.length_ofFn]

@[simp] theorem count_foldl_resolvLine
    (reads : List Bytes)
    (s : ResolvState) :
    (reads.foldl resolvLine s).count = s.count := by
  induction reads generalizing s with
  | nil => rfl
  | cons read reads ih =>
      rw [List.foldl_cons, ih, count_resolvLine]

/-
  Each address goes to the same entry, so that the last one is
  left there.
-/
theorem foldl_resolvLine
    {reads : List Bytes}
    {s : ResolvState}
    (hRoom : ∀ read ∈ reads, read.length < s.buf.length) :
    (reads.foldl resolvLine s).dnsaddrs =
      (reads.filterMap serverOf?).getLast?.elim s.dnsaddrs
        fun address =>
          s.dnsaddrs.set s.count (some address) := by
  induction reads generalizing s with
  | nil => rfl
  | cons read reads ih =>
      have hHere := resolvLine_dnsaddrs
        (hRoom read List.mem_cons_self)
      rw [serverOf?_lineText] at hHere
      have hRest := @ih (resolvLine s read) (by
        intro other hOther
        rw [length_resolvLine]
        exact hRoom other (List.mem_cons_of_mem _ hOther))
      rw [List.foldl_cons, hRest, hHere, count_resolvLine]
      cases hNames : serverOf? read with
      | none =>
          rw [List.filterMap_cons_none hNames]
          rfl
      | some address =>
          rw [List.filterMap_cons_some hNames]
          cases hLast : (reads.filterMap serverOf?).getLast? with
          | none =>
              rw [List.getLast?_eq_none_iff.mp hLast]
              rfl
          | some last =>
              rw [List.getLast?_cons, hLast]
              exact List.set_set _

/- The array that is made of what was read. -/
theorem resolvLoop_array
    (env : ResolvEnv)
    (file : Bytes) :
    ((fgetsAll iniBufSize file).foldl resolvLine
        (.start env)).dnsaddrs =
      nullTerminated (readServers file).getLast?.toList := by
  rw [foldl_resolvLine, readServers_eq]
  · cases ((fgetsAll iniBufSize file).filterMap
        serverOf?).getLast? with
    | none => rfl
    | some address => rfl
  · intro read hMem
    rw [ResolvState.length_start]
    exact length_fgetsAll hMem

------------------------------------------------------------
-- The Result
------------------------------------------------------------

/-
  What the resolver's file holds, if the configuration file
  leads to it and it can be opened.
-/
def resolvFile
    (cfg : Option Bytes)
    (fopen : Bytes → Option Bytes) : Option Bytes :=
  cfg.bind fun cfg =>
    fopen (((valueIn (fopen cfg) (bytes "main")
      (bytes "resolv.conf")).getD []).take (pathMax - 1))

/-
  All that the call can return: no list, or one that holds the
  last address that was read.
-/
theorem resolvConfGetdnsaddrs_eq
    (env : ResolvEnv)
    (cfg : Option Bytes)
    (fopen : Bytes → Option Bytes) :
    resolvConfGetdnsaddrs env cfg fopen =
      some ((resolvFile cfg fopen).bind fun file =>
        if env.memory then
          some (nullTerminated
            (readServers file).getLast?.toList)
        else
          none) := by
  cases cfg with
  | none => rfl
  | some cfg =>
      rcases @getPrivateProfileString_receives env.iniBuf
          (bytes "main") (bytes "resolv.conf") none
          (List.ofFn env.path) pathMax (fopen cfg)
          (Nat.le_of_eq List.length_ofFn.symm) (by decide)
          (fun text hText => by cases hText) with
        ⟨path, n, hRun, hReceives, -⟩
      unfold resolvConfGetdnsaddrs resolvFile
      simp only [hRun, hReceives.reads, Option.bind_eq_bind,
        Option.bind_some, Option.getD_none, Option.pure_def]
      cases fopen (((valueIn (fopen cfg) (bytes "main")
          (bytes "resolv.conf")).getD []).take
            (pathMax - 1)) with
      | none => rfl
      | some file =>
          cases env.memory with
          | false => rfl
          | true =>
              exact congrArg (some ∘ some)
                (resolvLoop_array env file)

------------------------------------------------------------
-- The Law
------------------------------------------------------------

/-
  An address is only stored in an entry that is `NULL`, and
  never in the last one.
-/
def StoresFree (s : ResolvState) (reads : List Bytes) : Prop :=
  ∀ before read after,
    reads = before ++ read :: after →
    serverOf? (lineText read) ≠ none →
      (before.foldl resolvLine s).count < maxNs ∧
      (before.foldl resolvLine s).dnsaddrs[
        (before.foldl resolvLine s).count]? = some none

/-
  Whenever the resolver's file is found, the list is that of
  the first servers that its lines name.
-/
def ServersLaw (file : Bytes) : Prop :=
  ∀ (env : ResolvEnv) (cfg : Option Bytes)
      (fopen : Bytes → Option Bytes),
    env.memory = true → resolvFile cfg fopen = some file →
      resolvConfGetdnsaddrs env cfg fopen =
        some (some (nullTerminated
          ((namedServers file).take maxNs))) ∧
      StoresFree (.start env) (fgetsAll iniBufSize file)

/-
  One line names a server at most, and no part of a line that
  does not fit the buffer is taken for another.
-/
def OneServer (file : Bytes) : Prop :=
  (namedServers file).length ≤ 1 ∧
    readServers file = namedServers file

/- Every file is the resolver's for some configuration. -/
theorem exists_resolvFile (file : Bytes) :
    ∃ cfg fopen, resolvFile cfg fopen = some file := by
  refine ⟨some (bytes "lsck.cfg"), fun name =>
    if name = bytes "lsck.cfg" then
      some (bytes "[main]\nresolv.conf=resolv.cfg\n")
    else some file, ?_⟩
  unfold resolvFile
  rw [Option.bind_some]
  have hValue : valueIn
      (some (bytes "[main]\nresolv.conf=resolv.cfg\n"))
      (bytes "main") (bytes "resolv.conf") =
        some (bytes "resolv.cfg") := by
    decide +kernel
  dsimp only
  rw [if_pos rfl, hValue]
  exact if_neg (by decide +kernel)

/- Of two servers that are read, one comes behind the other. -/
theorem exists_behind
    {α β : Type}
    {f : α → Option β}
    {l : List α}
    (hTwo : 2 ≤ (l.filterMap f).length) :
    ∃ before x after, l = before ++ x :: after ∧
      f x ≠ none ∧ before.filterMap f ≠ [] := by
  induction l with
  | nil => cases hTwo
  | cons y l ih =>
      cases hY : f y with
      | none =>
          rw [List.filterMap_cons_none hY] at hTwo
          rcases ih hTwo with ⟨before, x, after, rfl, hX, hSome⟩
          refine ⟨y :: before, x, after, rfl, hX, ?_⟩
          rw [List.filterMap_cons_none hY]
          exact hSome
      | some z =>
          rw [List.filterMap_cons_some hY,
            List.length_cons] at hTwo
          have hNext : l.filterMap f ≠ [] := by
            intro hNil
            rw [hNil, List.length_nil] at hTwo
            omega
          rcases List.exists_mem_of_ne_nil _ hNext with
            ⟨z', hMem⟩
          rcases List.mem_filterMap.mp hMem with ⟨x, hX, hIs⟩
          rcases List.append_of_mem hX with
            ⟨before, after, rfl⟩
          refine ⟨y :: before, x, after, rfl, ?_, ?_⟩
          · rw [hIs]
            exact Option.some_ne_none _
          · rw [List.filterMap_cons_some hY]
            exact List.cons_ne_nil _ _

/- The entry is free as long as nothing was stored. -/
theorem storesFree_iff
    (env : ResolvEnv)
    (file : Bytes) :
    StoresFree (.start env) (fgetsAll iniBufSize file) ↔
      (readServers file).length ≤ 1 := by
  have hEntry : ∀ before read after,
      fgetsAll iniBufSize file = before ++ read :: after →
      (before.foldl resolvLine (.start env)).dnsaddrs =
        (before.filterMap serverOf?).getLast?.elim
          (ResolvState.start env).dnsaddrs fun address =>
            (ResolvState.start env).dnsaddrs.set 0
              (some address) := by
    intro before read after hParts
    apply foldl_resolvLine
    intro other hOther
    have hMem : other ∈ fgetsAll iniBufSize file := by
      rw [hParts]
      exact List.mem_append_left _ hOther
    rw [ResolvState.length_start]
    exact length_fgetsAll hMem
  rw [readServers_eq]
  constructor
  · intro hFree
    by_contra hMany
    rcases exists_behind (Nat.lt_of_not_le hMany) with
      ⟨before, read, after, hParts, hNames, hSome⟩
    have hHere := (hFree before read after hParts (by
      rw [serverOf?_lineText]
      exact hNames)).2
    rw [hEntry before read after hParts,
      count_foldl_resolvLine] at hHere
    rcases Option.ne_none_iff_exists'.mp
        (mt List.getLast?_eq_none_iff.mp hSome) with
      ⟨last, hLast⟩
    rw [hLast] at hHere
    cases hHere
  · intro hFew before read after hParts hNames
    rw [serverOf?_lineText] at hNames
    have hNone : before.filterMap serverOf? = [] := by
      rcases Option.ne_none_iff_exists'.mp hNames with
        ⟨address, hAddress⟩
      rw [hParts, List.filterMap_append, List.length_append,
        List.filterMap_cons_some hAddress,
        List.length_cons] at hFew
      apply List.length_eq_zero_iff.mp
      omega
    rw [hEntry before read after hParts, hNone,
      count_foldl_resolvLine]
    constructor
    · exact Nat.zero_lt_succ 2
    · rfl

/- A list that is not longer than its last element. -/
theorem toList_getLast?
    {α : Type}
    {l : List α}
    (hFew : l.length ≤ 1) :
    l.getLast?.toList = l := by
  rcases l with _ | ⟨x, _ | ⟨y, l⟩⟩
  · rfl
  · rfl
  · simp only [List.length_cons] at hFew
    omega

/-
  The list is the one that the lines call for exactly when one
  server is named at most.
-/
theorem servers_law_iff (file : Bytes) :
    ServersLaw file ↔ OneServer file := by
  constructor
  · intro hLaw
    rcases exists_resolvFile file with ⟨cfg, fopen, hFile⟩
    rcases hLaw ⟨fun _ => 0, fun _ => 0, fun _ => 0, true⟩ cfg
      fopen rfl hFile with ⟨hRun, hFree⟩
    rw [storesFree_iff] at hFree
    rw [resolvConfGetdnsaddrs_eq, hFile] at hRun
    have hSame := congrArg nameservers
      (Option.some.inj (Option.some.inj hRun))
    rw [nameservers_nullTerminated,
      nameservers_nullTerminated] at hSame
    rw [toList_getLast? hFree] at hSame
    have hShort : (namedServers file).length ≤ 1 := by
      have hLength := congrArg List.length hSame
      rw [List.length_take] at hLength
      unfold maxNs at hLength
      omega
    rw [List.take_of_length_le (hShort.trans (by decide))]
      at hSame
    exact ⟨hShort, hSame⟩
  · rintro ⟨hFew, hSame⟩ env cfg fopen hMemory hFile
    rw [resolvConfGetdnsaddrs_eq, hFile, storesFree_iff, hSame,
      List.take_of_length_le (hFew.trans (by decide))]
    refine ⟨?_, hFew⟩
    rw [Option.bind_some, if_pos hMemory, hSame,
      toList_getLast? hFew]

/- Of two servers the first one is lost. -/
theorem second_server_overwrites :
    ¬ ∀ file, ServersLaw file := by
  intro hLaw
  rcases exists_resolvFile
      (bytes "nameserver 10.0.0.1\nnameserver 10.0.0.2\n") with
    ⟨cfg, fopen, hFile⟩
  have hFree := (hLaw _
    ⟨fun _ => 0, fun _ => 0, fun _ => 0, true⟩ cfg fopen rfl
    hFile).2
  have hFew := (storesFree_iff _ _).mp hFree
  revert hFew
  decide +kernel

end Libsocket
