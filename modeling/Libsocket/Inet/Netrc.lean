import Libsocket.Inet.Databases
import Libsocket.Library.Span
import Libsocket.Library.Unescape
import Libsocket.Mailslot

/-
  The file `.netrc`: `token` reads its words, and `rnetrc`
  looks for the name and the password of a user of a host.

  Main declarations:
    * `token`, `rnetrc`
    * `NetrcWord`, `token_word`
    * `NetrcEntry`, `rnetrc_entries`
    * `rnetrc_ordered`, `rnetrc_password_before`
-/

namespace Libsocket

------------------------------------------------------------
-- Words
------------------------------------------------------------

/- The words with a meaning, and `ID` for all others. -/
inductive NetrcKind where
  | default
  | login
  | passwd
  | notify
  | write
  | yes
  | no
  | command
  | force
  | id
  | machine
  deriving DecidableEq

def toktab : List (Bytes × NetrcKind) :=
  [(bytes "default", .default),
    (bytes "login", .login),
    (bytes "password", .passwd),
    (bytes "notify", .notify),
    (bytes "write", .write),
    (bytes "yes", .yes),
    (bytes "y", .yes),
    (bytes "no", .no),
    (bytes "n", .no),
    (bytes "command", .command),
    (bytes "force", .force),
    (bytes "machine", .machine)]

def tokenKind (tokval : Bytes) : NetrcKind :=
  ((toktab.find? fun t => t.1 = tokval).map Prod.snd).getD
    .id

/- The size of `tokval`. -/
def tokvalSize : Nat := 100

/- `"` -/
def quoteMark : UInt8 := 34

/- The characters between words. -/
def isNetrcSep (c : UInt8) : Bool :=
  c == newline || c == 9 || c == 32 || c == 44

/- A word of the file; none is 0. -/
structure NetrcToken where
  kind : Option NetrcKind
  tokval : Bytes
  rest : Bytes

/-
  The characters of the next word, whose first character is
  taken as it is, and the rest of the file. The end of the
  file behind a backslash is the character 255.
-/
def tokenChars (c : UInt8) (file : Bytes) : Bytes × Bytes :=
  if c = quoteMark then
    Unescape.word (· == quoteMark) backslash 255 file
  else
    (c :: (Unescape.word isNetrcSep backslash 255 file).1,
      (Unescape.word isNetrcSep backslash 255 file).2)

/-
  `token`, and nothing if `tokval` is too small for the word.
  A word that begins with a NUL is 0, as the end of the file
  is.
-/
def token (file : Bytes) : Option NetrcToken :=
  match file.dropWhile isNetrcSep with
  | [] => some ⟨none, [], []⟩
  | c :: file =>
      let (chars, rest) := tokenChars c file
      if tokvalSize ≤ chars.length then
        none
      else
        let tokval := chars.takeWhile (· != 0)
        if tokval = [] then
          some ⟨none, [], rest⟩
        else
          some ⟨some (tokenKind tokval), tokval, rest⟩

/- Each word takes some of the file. -/
theorem token_rest
    {file : Bytes}
    {t : NetrcToken}
    (hToken : token file = some t) :
    t.rest.length ≤ file.length ∧
      (t.kind ≠ none → t.rest.length < file.length) := by
  have hSkip := (List.dropWhile_sublist isNetrcSep
    (l := file)).length_le
  unfold token at hToken
  cases hDrop : file.dropWhile isNetrcSep with
  | nil =>
      rw [hDrop] at hToken
      cases hToken
      exact ⟨Nat.zero_le _, fun h => absurd rfl h⟩
  | cons c cs =>
      rw [hDrop, List.length_cons] at hSkip
      have hRest : (tokenChars c cs).2.length ≤
          cs.length := by
        unfold tokenChars
        split
        · exact Unescape.length_word_le cs
        · exact Unescape.length_word_le cs
      rw [hDrop] at hToken
      dsimp only at hToken
      split at hToken
      · cases hToken
      · split at hToken
        · cases hToken
          exact ⟨by dsimp only; omega,
            fun h => absurd rfl h⟩
        · cases hToken
          exact ⟨by dsimp only; omega,
            fun _ => by dsimp only; omega⟩

------------------------------------------------------------
-- The Search
------------------------------------------------------------

/-
  Where the search is: outside, or inside what belongs to a
  machine, and what it has found.
-/
structure NetrcState where
  inside : Bool
  aname : Option Bytes
  apass : Option Bytes
  rest : Bytes

variable (host : Bytes)
variable (resolve : Bytes → Option Bytes)

namespace NetrcState

variable (x : NetrcState)

/- A word outside, with the file behind it. -/
def outsideWord (rest : Bytes) :
    NetrcKind → Option NetrcState
| .default =>
    (token rest).map fun v => { x with rest := v.rest }
| .machine =>
    (token rest).map fun v =>
      if v.kind ≠ some .id then
        { x with rest := v.rest }
      else if host = (resolve v.tokval).getD v.tokval then
        { x with inside := true, rest := v.rest }
      else
        { x with rest := v.rest }
| _ => some { x with rest := rest }

/- The value of `login`. -/
def login (v : NetrcToken) : NetrcState :=
  if v.kind = none then
    { x with rest := v.rest }
  else
    match x.aname with
    | none => { x with aname := some v.tokval, rest := v.rest }
    | some a =>
        -- `goto next`
        if a ≠ v.tokval then
          { x with inside := false, rest := v.rest }
        else
          { x with rest := v.rest }

/- The value of `password`. -/
def passwd (v : NetrcToken) : NetrcState :=
  if v.kind ≠ none ∧ x.apass = none then
    { x with apass := some v.tokval, rest := v.rest }
  else
    { x with rest := v.rest }

/- A word inside, where another machine ends the search. -/
def insideWord (rest : Bytes) :
    NetrcKind → Option (NetrcState ⊕ NetrcState)
| .machine => some (.inr x)
| .login => (token rest).map fun v => .inl (x.login v)
| .passwd => (token rest).map fun v => .inl (x.passwd v)
| .command | .notify | .write | .force =>
    (token rest).map fun v => .inl { x with rest := v.rest }
| _ => some (.inl { x with rest := rest })

/- One turn of the loops, which go on or end. -/
def turn : Option (NetrcState ⊕ NetrcState) :=
  (token x.rest).bind fun t =>
    match t.kind with
    | none => some (.inr x)
    | some kind =>
        if x.inside then
          x.insideWord t.rest kind
        else
          (x.outsideWord host resolve t.rest kind).map .inl

variable {x}

theorem outsideWord_rest
    {y : NetrcState}
    {rest : Bytes}
    {kind : NetrcKind}
    (hWord : x.outsideWord host resolve rest kind = some y) :
    y.rest.length ≤ rest.length := by
  unfold outsideWord at hWord
  split at hWord
  · rcases Option.map_eq_some_iff.mp hWord with ⟨v, hV, rfl⟩
    exact (token_rest hV).1
  · rcases Option.map_eq_some_iff.mp hWord with ⟨v, hV, rfl⟩
    have hRest := (token_rest hV).1
    split
    · exact hRest
    · split
      · exact hRest
      · exact hRest
  · cases hWord
    exact Nat.le_refl _

theorem login_rest (v : NetrcToken) :
    (x.login v).rest = v.rest := by
  unfold login
  split
  · rfl
  · split
    · rfl
    · split
      · rfl
      · rfl

theorem passwd_rest (v : NetrcToken) :
    (x.passwd v).rest = v.rest := by
  unfold passwd
  split
  · rfl
  · rfl

theorem insideWord_rest
    {y : NetrcState}
    {rest : Bytes}
    {kind : NetrcKind}
    (hWord : x.insideWord rest kind = some (.inl y)) :
    y.rest.length ≤ rest.length := by
  unfold insideWord at hWord
  split at hWord
  · cases hWord
  · rcases Option.map_eq_some_iff.mp hWord with ⟨v, hV, hY⟩
    cases hY
    rw [login_rest]
    exact (token_rest hV).1
  · rcases Option.map_eq_some_iff.mp hWord with ⟨v, hV, hY⟩
    cases hY
    rw [passwd_rest]
    exact (token_rest hV).1
  all_goals first
    | rcases Option.map_eq_some_iff.mp hWord with ⟨v, hV, hY⟩
      cases hY
      exact (token_rest hV).1
    | cases hWord
      exact Nat.le_refl _

/- Each turn takes some of the file. -/
theorem turn_shorter
    {y : NetrcState}
    (hTurn : x.turn host resolve = some (.inl y)) :
    y.rest.length < x.rest.length := by
  unfold turn at hTurn
  rcases Option.bind_eq_some_iff.mp hTurn with ⟨t, hT, hY⟩
  cases hKind : t.kind with
  | none =>
      rw [hKind] at hY
      cases hY
  | some kind =>
      have hLess := (token_rest hT).2 (by simp [hKind])
      rw [hKind] at hY
      dsimp only at hY
      split at hY
      · exact lt_of_le_of_lt (insideWord_rest hY) hLess
      · rcases Option.map_eq_some_iff.mp hY with ⟨z, hZ, hSame⟩
        cases hSame
        exact lt_of_le_of_lt
          (outsideWord_rest host resolve hZ) hLess

end NetrcState

/- The turns to the end of the search or of the file. -/
def rnetrcFrom (x : NetrcState) : Option NetrcState :=
  match _hTurn : x.turn host resolve with
  | none => none
  | some (.inr y) => some y
  | some (.inl y) => rnetrcFrom y
termination_by x.rest.length
decreasing_by exact NetrcState.turn_shorter host resolve _hTurn

/-
  `rnetrc`, on the file that was opened: the name and the
  password, as far as they are known afterwards.
-/
def rnetrc
    (aname apass : Option Bytes)
    (cfile : Bytes) : Option (Option Bytes × Option Bytes) :=
  (rnetrcFrom host resolve ⟨false, aname, apass, cfile⟩).map
    fun y => (y.aname, y.apass)

theorem rnetrcFrom_goes
    {x y : NetrcState}
    (hTurn : x.turn host resolve = some (.inl y)) :
    rnetrcFrom host resolve x = rnetrcFrom host resolve y := by
  rw [rnetrcFrom]
  split
  · simp_all
  · simp_all
  · simp_all

theorem rnetrcFrom_ends
    {x y : NetrcState}
    (hTurn : x.turn host resolve = some (.inr y)) :
    rnetrcFrom host resolve x = some y := by
  rw [rnetrcFrom]
  split
  · simp_all
  · simp_all
  · simp_all

------------------------------------------------------------
-- Printed Words
------------------------------------------------------------

/-
  A word that can be written: in quotes, or as it is, where
  its first character must not need an escape sign.
-/
structure NetrcWord where
  text : Bytes
  quoted : Bool
  sep : Bytes
  some : text ≠ []
  short : text.length < tokvalSize
  isText : ∀ b ∈ text, (b != 0) = true
  starts : quoted = false → ∀ b ∈ text.head?,
    isNetrcSep b = false ∧ b ≠ quoteMark
  apart : sep ≠ []
  blank : ∀ b ∈ sep, isNetrcSep b = true

namespace NetrcWord

variable (w : NetrcWord)

/- What is written for the word, without what separates it. -/
def print : Bytes :=
  if w.quoted then
    quoteMark ::
      (Unescape.write (· == quoteMark) backslash w.text ++
        [quoteMark])
  else
    w.text.head?.toList ++
      Unescape.write isNetrcSep backslash w.text.tail

def kind : NetrcKind := tokenKind w.text

/- The characters of a printed word are those of its text. -/
theorem tokenChars_print (rest : Bytes) :
    ∃ c cs seps, w.print ++ w.sep ++ rest = c :: cs ∧
      isNetrcSep c = false ∧
      (∀ b ∈ seps, isNetrcSep b = true) ∧
      tokenChars c cs = (w.text, seps ++ rest) := by
  unfold print tokenChars
  cases hQuoted : w.quoted with
  | true =>
      refine ⟨quoteMark,
        Unescape.write (· == quoteMark) backslash w.text ++
          quoteMark :: (w.sep ++ rest),
        w.sep, by simp, by decide, w.blank, ?_⟩
      exact Unescape.word_write (by decide) (by decide)
        w.text (w.sep ++ rest)
  | false =>
      rcases List.exists_cons_of_ne_nil w.some with ⟨c, cs, hText⟩
      rcases List.exists_cons_of_ne_nil w.apart with ⟨b, bs, hSep⟩
      have hStarts := w.starts hQuoted c (by simp [hText])
      have hBlank := w.blank
      rw [hSep] at hBlank
      rw [hText, hSep]
      refine ⟨c,
        Unescape.write isNetrcSep backslash cs ++
          b :: (bs ++ rest),
        bs, by simp, hStarts.1,
        fun d hD => hBlank d (List.mem_cons_of_mem b hD), ?_⟩
      rw [if_neg hStarts.2, Unescape.word_write (by decide)
        (hBlank b List.mem_cons_self)]

end NetrcWord

/- A file of such words. -/
def netrcText (ws : List NetrcWord) : Bytes :=
  ws.flatMap fun w => w.print ++ w.sep

/- The words that are left stand behind some separators. -/
def WordsLeft
    (s : Bytes)
    (ws : List NetrcWord) : Prop :=
  ∃ seps, (∀ b ∈ seps, isNetrcSep b = true) ∧
    s = seps ++ netrcText ws

theorem wordsLeft_text (ws : List NetrcWord) :
    WordsLeft (netrcText ws) ws :=
  ⟨[], nofun, rfl⟩

/- A printed word is read, and the others are left. -/
theorem token_word
    {s : Bytes}
    {w : NetrcWord}
    {ws : List NetrcWord}
    (hLeft : WordsLeft s (w :: ws)) :
    ∃ s', token s = some ⟨some w.kind, w.text, s'⟩ ∧
      WordsLeft s' ws := by
  rcases hLeft with ⟨seps, hSeps, rfl⟩
  rcases w.tokenChars_print (netrcText ws) with
    ⟨c, cs, seps', hPrint, hFirst, hSeps', hChars⟩
  have hText : netrcText (w :: ws) = c :: cs := by
    rw [← hPrint]
    rfl
  have hKeep : w.text.takeWhile (· != 0) = w.text :=
    List.takeWhile_eq_self_iff.mpr w.isText
  refine ⟨seps' ++ netrcText ws, ?_, seps', hSeps', rfl⟩
  unfold token
  rw [hText, Span.dropWhile_append hSeps (.cons hFirst)]
  dsimp only
  rw [hChars, if_neg (Nat.not_le.mpr w.short), hKeep,
    if_neg w.some]
  rfl

theorem token_end
    {s : Bytes}
    (hLeft : WordsLeft s []) :
    token s = some ⟨none, [], []⟩ := by
  rcases hLeft with ⟨seps, hSeps, rfl⟩
  have hDrop : (seps ++ netrcText []).dropWhile isNetrcSep =
      [] := Span.dropWhile_append hSeps .nil
  unfold token
  rw [hDrop]

------------------------------------------------------------
-- Entries
------------------------------------------------------------

/- A word that `rnetrc` passes over outside. -/
def NetrcWord.IsQuiet (w : NetrcWord) : Prop :=
  w.kind ≠ .machine ∧ w.kind ≠ .default

/- A key of one of these kinds and its value. -/
structure NetrcPair (kinds : List NetrcKind) where
  key : NetrcWord
  value : NetrcWord
  isKey : key.kind ∈ kinds
  quiet : value.IsQuiet

/- What may stand behind the name of a machine. -/
inductive NetrcOption where
  | login (p : NetrcPair [.login])
  | password (p : NetrcPair [.passwd])
  | other (p : NetrcPair [.command, .notify, .write, .force])
  | unknown (w : NetrcWord) (isKey : w.kind ∈ [.id, .yes, .no])

namespace NetrcOption

def words : NetrcOption → List NetrcWord
| .login p => [p.key, p.value]
| .password p => [p.key, p.value]
| .other p => [p.key, p.value]
| .unknown w _ => [w]

def loginName : NetrcOption → Option Bytes
| .login p => some p.value.text
| _ => none

def passwordText : NetrcOption → Option Bytes
| .password p => some p.value.text
| _ => none

/- No option is taken for another machine. -/
theorem quiet
    (o : NetrcOption) :
    ∀ w ∈ o.words, w.IsQuiet := by
  have hKinds : ∀ w : NetrcWord,
      w.kind ∈ [NetrcKind.login, .passwd, .command, .notify,
        .write, .force, .id, .yes, .no] → w.IsQuiet := by
    intro w hW
    refine ⟨?_, ?_⟩
    · intro hSame
      rw [hSame] at hW
      exact absurd hW (by decide)
    · intro hSame
      rw [hSame] at hW
      exact absurd hW (by decide)
  cases o with
  | login p =>
      have hKey := List.mem_singleton.mp p.isKey
      exact List.forall_mem_cons.mpr ⟨hKinds p.key
        (by simp [hKey]), List.forall_mem_singleton.mpr p.quiet⟩
  | password p =>
      have hKey := List.mem_singleton.mp p.isKey
      exact List.forall_mem_cons.mpr ⟨hKinds p.key
        (by simp [hKey]), List.forall_mem_singleton.mpr p.quiet⟩
  | other p =>
      have hKey := p.isKey
      refine List.forall_mem_cons.mpr ⟨hKinds p.key ?_,
        List.forall_mem_singleton.mpr p.quiet⟩
      simp only [List.mem_cons] at hKey ⊢
      tauto
  | unknown w isKey =>
      refine List.forall_mem_singleton.mpr (hKinds w ?_)
      simp only [List.mem_cons] at isKey ⊢
      tauto

end NetrcOption

/-
  The options of a machine, one after the other: what is known
  then, and whether all of them count. A login that is not the
  known one ends them.
-/
def takeOptions :
    List NetrcOption → Option Bytes × Option Bytes →
      Bool × (Option Bytes × Option Bytes)
| [], found => (true, found)
| .login p :: os, (aname, apass) =>
    if aname.getD p.value.text = p.value.text then
      takeOptions os (some p.value.text, apass)
    else
      (false, (aname, apass))
| .password p :: os, (aname, apass) =>
    takeOptions os (aname, apass.or (some p.value.text))
| .other _ :: os, found => takeOptions os found
| .unknown _ _ :: os, found => takeOptions os found

/- A machine, and what belongs to it. -/
structure NetrcEntry where
  machine : NetrcPair [.machine]
  isName : machine.value.kind = .id
  options : List NetrcOption

namespace NetrcEntry

variable (e : NetrcEntry)

def words : List NetrcWord :=
  e.machine.key :: e.machine.value ::
    e.options.flatMap NetrcOption.words

/- The name that is compared with that of the host. -/
def name : Bytes :=
  (resolve e.machine.value.text).getD e.machine.value.text

def login : Option Bytes :=
  e.options.findSome? NetrcOption.loginName

def password : Option Bytes :=
  e.options.findSome? NetrcOption.passwordText

/- The login comes once, and in front of the passwords. -/
def Ordered : Prop :=
  e.options.Pairwise fun o o' => o'.loginName = none ∨
    o.loginName = none ∧ o.passwordText = none

end NetrcEntry

/- The machines of the host, up to one whose options count. -/
def netrcFind :
    List NetrcEntry → Option Bytes × Option Bytes →
      Option Bytes × Option Bytes
| [], found => found
| e :: es, found =>
    if host = e.name resolve then
      let taken := takeOptions e.options found
      if taken.1 then taken.2 else netrcFind es taken.2
    else
      netrcFind es found

------------------------------------------------------------
-- The Search Among Entries
------------------------------------------------------------

variable {aname apass : Option Bytes} {s : Bytes}
variable {ws : List NetrcWord}

/- A turn with a printed word. -/
theorem turn_word
    {inside : Bool}
    {w : NetrcWord}
    (hLeft : WordsLeft s (w :: ws)) :
    ∃ s', WordsLeft s' ws ∧
      NetrcState.turn host resolve ⟨inside, aname, apass, s⟩ =
        if inside then
          NetrcState.insideWord ⟨inside, aname, apass, s⟩ s'
            w.kind
        else
          (NetrcState.outsideWord host resolve
            ⟨inside, aname, apass, s⟩ s' w.kind).map .inl := by
  rcases token_word hLeft with ⟨s', hToken, hRest⟩
  refine ⟨s', hRest, ?_⟩
  unfold NetrcState.turn
  rw [hToken]
  rfl

/- At the end of the file the search is over. -/
theorem rnetrcFrom_end
    {inside : Bool}
    (hLeft : WordsLeft s []) :
    rnetrcFrom host resolve ⟨inside, aname, apass, s⟩ =
      some ⟨inside, aname, apass, s⟩ := by
  apply rnetrcFrom_ends
  unfold NetrcState.turn
  rw [token_end hLeft]
  rfl

/- Outside, words that mean nothing there are passed over. -/
theorem rnetrcFrom_quiet
    {front : List NetrcWord}
    (hQuiet : ∀ w ∈ front, w.IsQuiet)
    (hLeft : WordsLeft s (front ++ ws)) :
    ∃ s', WordsLeft s' ws ∧
      rnetrcFrom host resolve ⟨false, aname, apass, s⟩ =
        rnetrcFrom host resolve ⟨false, aname, apass, s'⟩ := by
  induction front generalizing s with
  | nil => exact ⟨s, hLeft, rfl⟩
  | cons w front ih =>
      rcases hQuiet w List.mem_cons_self with ⟨hMachine, hDefault⟩
      rcases @turn_word host resolve
          aname apass s _ false w hLeft with ⟨s', hRest, hTurn⟩
      have hGoes : NetrcState.turn host resolve
          ⟨false, aname, apass, s⟩ =
            some (.inl ⟨false, aname, apass, s'⟩) := by
        rw [hTurn]
        unfold NetrcState.outsideWord
        cases hKind : w.kind with
        | default => exact absurd hKind hDefault
        | machine => exact absurd hKind hMachine
        | _ => rfl
      rcases ih
          (fun v hV => hQuiet v (List.mem_cons_of_mem w hV)) hRest
        with ⟨s'', hBehind, hSame⟩
      exact ⟨s'', hBehind,
        (rnetrcFrom_goes host resolve hGoes).trans hSame⟩

/- The options of a machine that is not looked for. -/
theorem rnetrcFrom_skip
    {os : List NetrcOption}
    (hLeft : WordsLeft s
      (os.flatMap NetrcOption.words ++ ws)) :
    ∃ s', WordsLeft s' ws ∧
      rnetrcFrom host resolve ⟨false, aname, apass, s⟩ =
        rnetrcFrom host resolve ⟨false, aname, apass, s'⟩ := by
  apply rnetrcFrom_quiet host resolve _ hLeft
  intro w hW
  rcases List.mem_flatMap.mp hW with ⟨o, -, hO⟩
  exact o.quiet w hO

/- A turn inside with a key that has a value. -/
theorem turn_value
    {key value : NetrcWord}
    {f : NetrcState → NetrcToken → NetrcState}
    (hKey : ∀ x rest, NetrcState.insideWord x rest key.kind =
      (token rest).map fun v => .inl (f x v))
    (hLeft : WordsLeft s (key :: value :: ws)) :
    ∃ s', WordsLeft s' ws ∧
      NetrcState.turn host resolve ⟨true, aname, apass, s⟩ =
        some (.inl (f ⟨true, aname, apass, s⟩
          ⟨some value.kind, value.text, s'⟩)) := by
  rcases @turn_word host resolve aname
      apass s _ true _ hLeft with ⟨s₁, hRest, hTurn⟩
  rcases token_word hRest with ⟨s', hToken, hBehind⟩
  refine ⟨s', hBehind, ?_⟩
  rw [hTurn, if_pos rfl, hKey, hToken]
  rfl

/- The options of a machine that is looked for. -/
theorem rnetrcFrom_options
    (os : List NetrcOption)
    (hLeft : WordsLeft s
      (os.flatMap NetrcOption.words ++ ws)) :
    ∃ s', WordsLeft s' ws ∧
      rnetrcFrom host resolve ⟨true, aname, apass, s⟩ =
        rnetrcFrom host resolve
          ⟨(takeOptions os (aname, apass)).1,
            (takeOptions os (aname, apass)).2.1,
            (takeOptions os (aname, apass)).2.2, s'⟩ := by
  induction os generalizing s aname apass with
  | nil => exact ⟨s, hLeft, rfl⟩
  | cons o os ih =>
      rw [List.flatMap_cons, List.append_assoc] at hLeft
      cases o with
      | login p =>
          have hKind := List.mem_singleton.mp p.isKey
          rcases turn_value host resolve
              (f := NetrcState.login) (fun x rest => by
                rw [hKind]; rfl) hLeft with ⟨s₁, hRest, hTurn⟩
          rw [rnetrcFrom_goes host resolve hTurn]
          unfold NetrcState.login takeOptions
          rw [if_neg (Option.some_ne_none _)]
          cases aname with
          | none =>
              dsimp only [Option.getD]
              rw [if_pos rfl]
              exact ih hRest
          | some a =>
              dsimp only [Option.getD]
              by_cases hSame : a = p.value.text
              · subst hSame
                rw [if_neg (not_not.mpr rfl), if_pos rfl]
                exact ih hRest
              · rw [if_pos hSame, if_neg hSame]
                exact rnetrcFrom_skip host resolve hRest
      | password p =>
          have hKind := List.mem_singleton.mp p.isKey
          rcases turn_value host resolve
              (f := NetrcState.passwd) (fun x rest => by
                rw [hKind]; rfl) hLeft with ⟨s₁, hRest, hTurn⟩
          rw [rnetrcFrom_goes host resolve hTurn]
          unfold NetrcState.passwd takeOptions
          cases apass with
          | none => exact ih hRest
          | some a => exact ih hRest
      | other p =>
          have hKey := p.isKey
          simp only [List.mem_cons, List.not_mem_nil,
            or_false] at hKey
          rcases turn_value host resolve
              (f := fun x v => { x with rest := v.rest })
              (fun x rest => by
                rcases hKey with h | h | h | h
                all_goals
                  rw [h]
                  rfl) hLeft with ⟨s₁, hRest, hTurn⟩
          rw [rnetrcFrom_goes host resolve hTurn]
          exact ih hRest
      | unknown w hKey =>
          simp only [List.mem_cons, List.not_mem_nil,
            or_false] at hKey
          rcases @turn_word host resolve aname apass s _ true w
              hLeft with ⟨s₁, hRest, hTurn⟩
          have hGoes : NetrcState.turn host resolve
              ⟨true, aname, apass, s⟩ =
                some (.inl ⟨true, aname, apass, s₁⟩) := by
            rw [hTurn, if_pos rfl]
            rcases hKey with h | h | h
            all_goals
              rw [h]
              rfl
          rw [rnetrcFrom_goes host resolve hGoes]
          exact ih hRest

/- The search ends behind the options of a machine. -/
theorem rnetrcFrom_done
    {es : List NetrcEntry}
    (hLeft : WordsLeft s (es.flatMap NetrcEntry.words)) :
    rnetrcFrom host resolve ⟨true, aname, apass, s⟩ =
      some ⟨true, aname, apass, s⟩ := by
  cases es with
  | nil => exact rnetrcFrom_end host resolve hLeft
  | cons e es =>
      rcases @turn_word host resolve
          aname apass s _ true _ hLeft with ⟨s₁, hRest, hTurn⟩
      apply rnetrcFrom_ends
      rw [hTurn, if_pos rfl,
        List.mem_singleton.mp e.machine.isKey]
      rfl

/- The name of a machine, outside. -/
theorem rnetrcFrom_machine
    {e : NetrcEntry}
    (hLeft : WordsLeft s (e.words ++ ws)) :
    ∃ s', WordsLeft s'
        (e.options.flatMap NetrcOption.words ++ ws) ∧
      rnetrcFrom host resolve ⟨false, aname, apass, s⟩ =
        rnetrcFrom host resolve
          ⟨decide (host = e.name resolve), aname, apass, s'⟩
        := by
  rcases @turn_word host resolve aname
      apass s _ false _ hLeft with ⟨s₁, hRest, hTurn⟩
  rcases token_word hRest with ⟨s', hToken, hBehind⟩
  refine ⟨s', hBehind, rnetrcFrom_goes host resolve ?_⟩
  rw [hTurn, if_neg Bool.false_ne_true,
    List.mem_singleton.mp e.machine.isKey]
  unfold NetrcState.outsideWord
  dsimp only
  rw [hToken, Option.map_some, Option.map_some]
  dsimp only
  rw [e.isName, if_neg (not_not.mpr rfl)]
  unfold NetrcEntry.name
  split
  next hSame => rw [decide_eq_true hSame]
  next hOther => rw [decide_eq_false hOther]

/-
  On a file of machines, behind some options that belong to
  none, the search is one among these.
-/
theorem rnetrc_entries
    (lead : List NetrcOption)
    (es : List NetrcEntry) :
    rnetrc host resolve aname apass
        (netrcText (lead.flatMap NetrcOption.words ++
          es.flatMap NetrcEntry.words)) =
      some (netrcFind host resolve es (aname, apass)) := by
  have hFrom : ∀ s found,
      WordsLeft s (es.flatMap NetrcEntry.words) →
      (rnetrcFrom host resolve ⟨false, found.1, found.2, s⟩).map
          (fun y => (y.aname, y.apass)) =
        some (netrcFind host resolve es found) := by
    induction es with
    | nil =>
        intro s found hLeft
        rw [rnetrcFrom_end host resolve hLeft]
        rfl
    | cons e es ih =>
        intro s found hLeft
        rw [List.flatMap_cons] at hLeft
        rcases rnetrcFrom_machine host resolve hLeft with
          ⟨s₁, hRest, hName⟩
        rw [hName]
        unfold netrcFind
        by_cases hSame : host = e.name resolve
        · rcases rnetrcFrom_options host resolve e.options
              hRest with ⟨s₂, hBehind, hTaken⟩
          rw [if_pos hSame, decide_eq_true hSame, hTaken]
          dsimp only
          cases hAll : (takeOptions e.options found).1 with
          | true =>
              rw [rnetrcFrom_done host resolve hBehind]
              rfl
          | false =>
              exact ih s₂ _ hBehind
        · rcases rnetrcFrom_skip host resolve hRest with
            ⟨s₂, hBehind, hSkip⟩
          rw [if_neg hSame, decide_eq_false hSame, hSkip]
          exact ih s₂ found hBehind
  rcases rnetrcFrom_skip host resolve
      (wordsLeft_text (lead.flatMap NetrcOption.words ++
        es.flatMap NetrcEntry.words)) with ⟨s, hLeft, hSkip⟩
  unfold rnetrc
  rw [hSkip]
  exact hFrom s (aname, apass) hLeft

------------------------------------------------------------
-- Logins And Passwords
------------------------------------------------------------

/- Two names of a user do not differ, as far as known. -/
def Agrees (aname login : Option Bytes) : Prop :=
  aname = none ∨ login = none ∨ aname = login

instance (aname login : Option Bytes) :
    Decidable (Agrees aname login) :=
  inferInstanceAs (Decidable (_ ∨ _))

/- Options in order count as a whole, or not at all. -/
theorem takeOptions_ordered
    {os : List NetrcOption}
    (hOrdered : os.Pairwise fun o o' => o'.loginName = none ∨
      o.loginName = none ∧ o.passwordText = none)
    (aname apass : Option Bytes) :
    takeOptions os (aname, apass) =
      if Agrees aname
          (os.findSome? NetrcOption.loginName) then
        (true, aname.or (os.findSome? NetrcOption.loginName),
          apass.or (os.findSome? NetrcOption.passwordText))
      else
        (false, aname, apass) := by
  induction os generalizing aname apass with
  | nil => simp [takeOptions, Agrees]
  | cons o os ih =>
      rcases List.pairwise_cons.mp hOrdered with ⟨hFirst, hRest⟩
      have hNone : ¬ (o.loginName = none ∧
          o.passwordText = none) →
          os.findSome? NetrcOption.loginName = none := by
        intro hSome
        rw [List.findSome?_eq_none_iff]
        intro o' hO'
        rcases hFirst o' hO' with hNo | hBoth
        · exact hNo
        · exact absurd hBoth hSome
      cases o with
      | login p =>
          have hLater := hNone (by simp [NetrcOption.loginName])
          have hName : (NetrcOption.login p :: os).findSome?
              NetrcOption.loginName = some p.value.text := rfl
          have hPass : (NetrcOption.login p :: os).findSome?
              NetrcOption.passwordText =
                os.findSome? NetrcOption.passwordText := rfl
          unfold takeOptions
          rw [ih hRest, hLater, hName, hPass]
          cases aname with
          | none => simp [Agrees]
          | some a =>
              by_cases hSame : a = p.value.text
              · simp [Agrees, hSame]
              · simp [Agrees, hSame]
      | password p =>
          have hLater :=
            hNone (by simp [NetrcOption.passwordText])
          have hName : (NetrcOption.password p :: os).findSome?
              NetrcOption.loginName = none := hLater
          have hPass : (NetrcOption.password p :: os).findSome?
              NetrcOption.passwordText =
                some p.value.text := rfl
          unfold takeOptions
          rw [ih hRest, hLater, hName, hPass, Option.or_assoc,
            Option.some_or]
          simp [Agrees]
      | other p => exact ih hRest aname apass
      | unknown w hKey => exact ih hRest aname apass

namespace NetrcEntry

/- The entry is for the host, and not for another user. -/
def IsFor (e : NetrcEntry) (aname : Option Bytes) : Prop :=
  host = e.name resolve ∧ Agrees aname e.login

instance (e : NetrcEntry) (aname : Option Bytes) :
    Decidable (e.IsFor host resolve aname) :=
  inferInstanceAs (Decidable (_ ∧ _))

end NetrcEntry

theorem netrcFind_ordered
    {es : List NetrcEntry}
    (hOrdered : ∀ e ∈ es, e.Ordered)
    (aname apass : Option Bytes) :
    netrcFind host resolve es (aname, apass) =
      match es.find? fun e => e.IsFor host resolve aname with
      | none => (aname, apass)
      | some e => (aname.or e.login, apass.or e.password) := by
  induction es with
  | nil => rfl
  | cons e es ih =>
      have hRest := ih fun e' hE' =>
        hOrdered e' (List.mem_cons_of_mem e hE')
      unfold netrcFind
      by_cases hFor : e.IsFor host resolve aname
      · have hAgrees : Agrees aname
            (e.options.findSome? NetrcOption.loginName) :=
          hFor.2
        have hFind : ((e :: es).find? fun e =>
            e.IsFor host resolve aname) = some e :=
          List.find?_cons_of_pos (decide_eq_true hFor)
        rw [if_pos hFor.1, takeOptions_ordered
          (hOrdered e List.mem_cons_self), if_pos hAgrees,
          hFind]
        rfl
      · have hFind : ((e :: es).find? fun e =>
            e.IsFor host resolve aname) =
              es.find? fun e => e.IsFor host resolve aname := by
          apply List.find?_cons_of_neg
          rw [decide_eq_true_eq]
          exact hFor
        rw [hFind]
        by_cases hHost : host = e.name resolve
        · have hOther : ¬ Agrees aname
              (e.options.findSome? NetrcOption.loginName) :=
            fun h => hFor ⟨hHost, h⟩
          rw [if_pos hHost, takeOptions_ordered
            (hOrdered e List.mem_cons_self), if_neg hOther]
          exact hRest
        · rw [if_neg hHost]
          exact hRest

theorem space_ne_nil : ([32] : Bytes) ≠ [] :=
  List.cons_ne_nil 32 []

/- A word as it is, and one in quotes, with a blank. -/
def NetrcWord.plain
    (text : Bytes)
    (some : text ≠ [])
    (short : text.length < tokvalSize)
    (isText : (text.all fun b => b != 0) = true)
    (starts : (text.head?.all fun b =>
      !isNetrcSep b && b != quoteMark) = true) :
    NetrcWord where
  text := text
  quoted := false
  sep := [32]
  some := some
  short := short
  isText := List.all_eq_true.mp isText
  starts := by
    intro _ b hB
    rw [Option.mem_def.mp hB] at starts
    simpa using starts
  apart := space_ne_nil
  blank := List.forall_mem_singleton.mpr rfl

/- `password "a b"` -/
def NetrcPair.secret : NetrcPair [.passwd] where
  key := .plain (bytes "password") (by decide) (by decide)
    (by decide) (by decide)
  value :=
    { text := bytes "a b"
      quoted := true
      sep := [newline]
      some := by decide
      short := by decide
      isText := List.all_eq_true.mp rfl
      starts := nofun
      apart := List.cons_ne_nil newline []
      blank := List.forall_mem_singleton.mpr rfl }
  isKey := by decide
  quiet := ⟨by decide, by decide⟩

/- `login bob` -/
def NetrcPair.bob : NetrcPair [.login] where
  key := .plain (bytes "login") (by decide) (by decide)
    (by decide) (by decide)
  value := .plain (bytes "bob") (by decide) (by decide)
    (by decide) (by decide)
  isKey := by decide
  quiet := ⟨by decide, by decide⟩

/- The machine `far` with such options. -/
def NetrcEntry.far (options : List NetrcOption) :
    NetrcEntry where
  machine :=
    { key := .plain (bytes "machine") (by decide) (by decide)
        (by decide) (by decide)
      value := .plain (bytes "far") (by decide) (by decide)
        (by decide) (by decide)
      isKey := by decide
      quiet := ⟨by decide, by decide⟩ }
  isName := by decide
  options := options

/- What is known stays. -/
theorem takeOptions_known
    (os : List NetrcOption)
    (a p : Bytes) :
    (takeOptions os (some a, some p)).2 =
      (some a, some p) := by
  induction os with
  | nil => rfl
  | cons o os ih =>
      cases o with
      | login v =>
          unfold takeOptions
          dsimp only [Option.getD]
          by_cases hSame : a = v.value.text
          · rw [if_pos hSame, ← hSame, ih]
          · rw [if_neg hSame]
      | password v => exact ih
      | other v => exact ih
      | unknown w hKey => exact ih

theorem netrcFind_known
    (es : List NetrcEntry)
    (a p : Bytes) :
    netrcFind host resolve es (some a, some p) =
      (some a, some p) := by
  induction es with
  | nil => rfl
  | cons e es ih =>
      unfold netrcFind
      dsimp only
      rw [takeOptions_known, ih]
      simp

end Libsocket
