import DeliveryIntelligence.Common.Python
import DeliveryIntelligence.Library.Substitution

set_option autoImplicit false

/-!
# The text of a stored error

`sanitize_error` of `analytics_refresh/runner.py`: the two patterns replace the password of a URI
and the value of an assignment, the white space is flattened and the text is cut. Strings are
given by their code points.

A secret leaves no trace in the stored text exactly if it is the value of an assignment, or the
password of a URI with a user name and contains no `@` (`hides_iff`).
-/

namespace AnalyticsRefresh

open Python Substitution

/-! ## The patterns -/

/-- The lower-case letter that `re.IGNORECASE` takes a code point for. -/
def foldCase (c : Nat) : Nat :=
  if 0x41 ≤ c ∧ c ≤ 0x5A then c + 0x20
  -- U+0130 and U+0131 match i, U+017F matches s and U+212A matches k
  else if c = 0x130 ∨ c = 0x131 then 0x69
  else if c = 0x17F then 0x73
  else if c = 0x212A then 0x6B
  else c

/-- `[a-z]` -/
def isLetter (c : Nat) : Bool := decide (0x61 ≤ foldCase c ∧ foldCase c ≤ 0x7A)

/-- `[a-z0-9+.-]` -/
def isSchemeSymbol (c : Nat) : Bool :=
  isLetter c || decide (0x30 ≤ c ∧ c ≤ 0x39) || c == '+'.toNat || c == '.'.toNat || c == '-'.toNat

/-- `[^:/\s]` -/
def isUserSymbol (c : Nat) : Bool := !(c == ':'.toNat || c == '/'.toNat || isSpaceCode c)

/-- `[^@\s]` -/
def isPasswordSymbol (c : Nat) : Bool := !(c == '@'.toNat || isSpaceCode c)

/-- `[=:]` -/
def isSign (c : Nat) : Bool := c == '='.toNat || c == ':'.toNat

/-- `[^\s,;]` -/
def isValueSymbol (c : Nat) : Bool := !(isSpaceCode c || c == ','.toNat || c == ';'.toNat)

/-- A character of a pattern, up to case where it is a letter. -/
def symbolPiece (c : Nat) : Piece Nat := .one fun d => foldCase d == c

def redacted : List Nat := codePoints "[REDACTED]"

/-- `([a-z][a-z0-9+.-]*://[^:/\s]+:)([^@\s]+)(@)` -/
def uriPieces : List (Piece Nat) :=
  [.one isLetter, .run 0 isSchemeSymbol, symbolPiece ':'.toNat, symbolPiece '/'.toNat,
    symbolPiece '/'.toNat, .run 1 isUserSymbol, symbolPiece ':'.toNat, .run 1 isPasswordSymbol,
    symbolPiece '@'.toNat]

/-- `_URI_PASSWORD_PATTERN` with the replacement `\1[REDACTED]\3` -/
def uriPassword : Matcher Nat := fun text =>
  (consume uriPieces text).map fun parts =>
    ⟨(parts.set 7 redacted).flatten, parts.flatten.length⟩

def secretNames : List (List Nat) :=
  ["password", "token", "secret", "signature", "authorization"].map codePoints

/-- `name(\s*[=:]\s*)([^\s,;]+)` -/
def secretPieces (name : List Nat) : List (Piece Nat) :=
  name.map symbolPiece
    ++ [.run 0 isSpaceCode, .one isSign, .run 0 isSpaceCode, .run 1 isValueSymbol]

/-- `_SECRET_PATTERN` for one of the names, with the replacement `\1\2[REDACTED]` -/
def namedSecret (name : List Nat) : Matcher Nat := fun text =>
  (consume (secretPieces name) text).map fun parts =>
    ⟨parts.dropLast.flatten ++ redacted, parts.flatten.length⟩

/-- `_SECRET_PATTERN` -/
def secretValue : Matcher Nat := fun text => secretNames.findSome? fun name => namedSecret name text

/-! ## The stored text -/

/-- `" ".join(text.split())` -/
def flattenSpace (text : List Nat) : List Nat := [' '.toNat].intercalate (split text)

/-- The text after both substitutions. -/
def redactSecrets (message : List Nat) : List Nat :=
  substitute secretValue (substitute uriPassword message)

/-- Redact common secret assignments, flatten whitespace, and bound storage. -/
def sanitizeError (message : List Nat) : List Nat :=
  let flattened := flattenSpace (redactSecrets message)
  (if flattened = [] then codePoints "unspecified refresh failure" else flattened).take 1000

example : sanitizeError (codePoints "login with Password = hunter2,\n postgres://app:pw@db failed")
    = codePoints "login with Password = [REDACTED], postgres://app:[REDACTED]@db failed" := by
  decide +kernel

/-- The stored text is never empty and fits its column. -/
theorem sanitizeError_length (message : List Nat) :
    sanitizeError message ≠ [] ∧ (sanitizeError message).length ≤ 1000 := by
  have hsome : ∀ text : List Nat, text ≠ [] → text.take 1000 ≠ [] := by
    intro text htext h
    rcases List.take_eq_nil_iff.mp h with hzero | hnil
    · exact absurd hzero (by decide)
    · exact htext hnil
  refine ⟨hsome _ ?_, List.length_take_le 1000 _⟩
  show (if flattenSpace (redactSecrets message) = [] then _ else _) ≠ []
  split
  · decide
  · assumption

/-! ## The patterns as matchers -/

theorem proper_uriPassword : Proper uriPassword := by
  intro text found h
  obtain ⟨parts, hparts, rfl⟩ := Option.map_eq_some_iff.mp h
  obtain ⟨c, rest, tail, -, rfl, -⟩ := consume_one_some hparts
  exact ⟨Nat.succ_le_succ (Nat.zero_le _), (flatten_consume hparts).length_le⟩

/-- A match of the second pattern starts with a letter of one of the names. -/
theorem namedSecret_some {name text : List Nat} (hname : name ∈ secretNames)
    {found : Match Nat} (h : namedSecret name text = some found) :
    ∃ c rest tail, text = c :: rest ∧ tail ≠ []
      ∧ found = ⟨(c :: tail.dropLast.flatten) ++ redacted, (c :: tail.flatten).length⟩
      ∧ (c :: tail.flatten) <+: text := by
  obtain ⟨parts, hparts, rfl⟩ := Option.map_eq_some_iff.mp h
  cases name with
  | nil => exact absurd hname (by decide)
  | cons letter name =>
      obtain ⟨c, rest, tail, rfl, rfl, htail⟩ := consume_one_some hparts
      have hne : tail ≠ [] := by
        have hlength := length_consume htail
        rintro rfl
        exact absurd hlength (by simp)
      refine ⟨c, rest, tail, rfl, hne, ?_, flatten_consume hparts⟩
      rw [List.dropLast_cons_of_ne_nil hne]
      rfl

theorem secretValue_some {text : List Nat} {found : Match Nat} (h : secretValue text = some found) :
    ∃ name ∈ secretNames, namedSecret name text = some found := by
  obtain ⟨name, hname, hfound⟩ := List.exists_of_findSome?_eq_some h
  exact ⟨name, hname, hfound⟩

theorem proper_secretValue : Proper secretValue := by
  intro text found h
  obtain ⟨name, hname, hfound⟩ := secretValue_some h
  obtain ⟨c, rest, tail, -, -, rfl, hprefix⟩ := namedSecret_some hname hfound
  exact ⟨Nat.succ_le_succ (Nat.zero_le _), hprefix.length_le⟩

/-- A replacement is made of the text and of `[REDACTED]`. -/
theorem forall_mem_uriPassword {P : Nat → Prop} (hredacted : ∀ c ∈ redacted, P c)
    {text : List Nat} {found : Match Nat} (h : uriPassword text = some found)
    (htext : ∀ c ∈ text, P c) : ∀ c ∈ found.replacement, P c := by
  intro c hc
  obtain ⟨parts, hparts, rfl⟩ := Option.map_eq_some_iff.mp h
  obtain ⟨part, hpart, hmem⟩ := List.mem_flatten.mp hc
  rcases List.mem_or_eq_of_mem_set hpart with hold | rfl
  · exact htext c ((flatten_consume hparts).subset (List.mem_flatten.mpr ⟨part, hold, hmem⟩))
  · exact hredacted c hmem

theorem forall_mem_secretValue {P : Nat → Prop} (hredacted : ∀ c ∈ redacted, P c)
    {text : List Nat} {found : Match Nat} (h : secretValue text = some found)
    (htext : ∀ c ∈ text, P c) : ∀ c ∈ found.replacement, P c := by
  intro c hc
  obtain ⟨name, -, hfound⟩ := secretValue_some h
  obtain ⟨parts, hparts, rfl⟩ := Option.map_eq_some_iff.mp hfound
  rcases List.mem_append.mp hc with hold | hown
  · obtain ⟨part, hpart, hmem⟩ := List.mem_flatten.mp hold
    exact htext c ((flatten_consume hparts).subset
      (List.mem_flatten.mpr ⟨part, List.mem_of_mem_dropLast hpart, hmem⟩))
  · exact hredacted c hown

/-- A word of a text is part of it. -/
theorem subset_of_mem_splitOnP (text : List Nat) :
    ∀ word ∈ text.splitOnP isSpaceCode, word ⊆ text := by
  induction text with
  | nil =>
      rw [List.splitOnP_nil]
      exact List.forall_mem_singleton.mpr (List.Subset.refl [])
  | cons c text ih =>
      have hlater : ∀ word ∈ text.splitOnP isSpaceCode, word ⊆ c :: text :=
        fun word hword => List.subset_cons_of_subset c (ih word hword)
      rw [List.splitOnP_cons_eq_if_modifyHead]
      split
      · exact List.forall_mem_cons.mpr ⟨List.nil_subset _, hlater⟩
      · obtain ⟨first, words, hwords⟩ :=
          List.exists_cons_of_ne_nil (List.splitOnP_ne_nil isSpaceCode text)
        rw [hwords, List.forall_mem_cons] at ih
        rw [hwords, List.forall_mem_cons] at hlater
        rw [hwords]
        exact List.forall_mem_cons.mpr ⟨List.cons_subset_cons c ih.1, hlater.2⟩

/-- The words with blanks between them have the symbols of the text, and blanks. -/
theorem forall_mem_flattenSpace {P : Nat → Prop} (hspace : P ' '.toNat) {text : List Nat}
    (h : ∀ c ∈ text, P c) : ∀ c ∈ flattenSpace text, P c := by
  have hwords : ∀ word ∈ split text, ∀ c ∈ word, P c := by
    intro word hword c hc
    exact h c (subset_of_mem_splitOnP text word (List.mem_of_mem_filter hword) hc)
  unfold flattenSpace
  generalize split text = words at hwords ⊢
  induction words with
  | nil => exact fun c hc => absurd hc List.not_mem_nil
  | cons first words ih =>
      rw [List.forall_mem_cons] at hwords
      cases words with
      | nil =>
          rw [List.intercalate_singleton]
          exact hwords.1
      | cons second words =>
          rw [List.intercalate_cons_cons, List.forall_mem_append, List.forall_mem_append]
          exact ⟨⟨hwords.1, List.forall_mem_singleton.mpr hspace⟩, ih hwords.2⟩

/-- The sanitizer adds no symbols but those of its own texts. -/
theorem forall_mem_sanitizeError {P : Nat → Prop}
    (hown : ∀ c ∈ codePoints "[REDACTED] unspecified refresh failure", P c) {message : List Nat}
    (h : ∀ c ∈ message, P c) : ∀ c ∈ sanitizeError message, P c := by
  have hredacted : ∀ c ∈ redacted, P c :=
    fun c hc => hown c ((by decide : redacted ⊆ _) hc)
  have hspace : P ' '.toNat := hown _ (by decide)
  have hflat : ∀ c ∈ flattenSpace (redactSecrets message), P c :=
    forall_mem_flattenSpace hspace
      (forall_mem_substitute proper_secretValue (fun _ _ => forall_mem_secretValue hredacted)
        (forall_mem_substitute proper_uriPassword (fun _ _ => forall_mem_uriPassword hredacted) h))
  intro c hc
  have hmem := List.mem_of_mem_take hc
  split at hmem
  · exact hown c ((by decide : codePoints "unspecified refresh failure" ⊆ _) hmem)
  · exact hflat c hmem

/-- Both substitutions keep the first symbol. -/
theorem head?_substitute_uriPassword (text : List Nat) :
    (substitute uriPassword text).head? = text.head? := by
  refine head?_substitute proper_uriPassword (fun text found h => ?_) text
  obtain ⟨parts, hparts, rfl⟩ := Option.map_eq_some_iff.mp h
  obtain ⟨c, rest, tail, rfl, rfl, -⟩ := consume_one_some hparts
  rfl

theorem head?_substitute_secretValue (text : List Nat) :
    (substitute secretValue text).head? = text.head? := by
  refine head?_substitute proper_secretValue (fun text found h => ?_) text
  obtain ⟨name, hname, hfound⟩ := secretValue_some h
  obtain ⟨c, rest, tail, rfl, -, rfl, -⟩ := namedSecret_some hname hfound
  rfl

def blank : Nat := ' '.toNat

/-- The first pattern reads no blank. -/
theorem uriPassword_blank (before text : List Nat) :
    uriPassword (before ++ blank :: text) = uriPassword before := by
  unfold uriPassword
  rw [consume_append_cons (by decide)]

/-- The first substitution works on both sides of a blank by itself. -/
theorem substitute_uriPassword_blank (before text : List Nat) :
    substitute uriPassword (before ++ blank :: text)
      = substitute uriPassword before ++ blank :: substitute uriPassword text :=
  substitute_append_separator proper_uriPassword (fun before => uriPassword_blank before text)
    before

/-- It keeps a text a value: without white space, comma and semicolon. -/
theorem isValueSymbol_substitute {text : List Nat} (h : ∀ c ∈ text, isValueSymbol c = true) :
    ∀ c ∈ substitute uriPassword text, isValueSymbol c = true := by
  exact forall_mem_substitute proper_uriPassword
    (fun _ _ => forall_mem_uriPassword (by decide)) h

/-! ## A value behind a blank -/

section

/-! Two texts that differ in a word `x` or `y` behind a blank, where the word starts with neither
white space nor a sign: a match before it covers the word, or does not reach it. -/

variable {x y after : List Nat}

/-- What the pieces consume of two such texts from `before` on. -/
def Agree (before x y : List Nat) (parts parts' : Option (List (List Nat))) : Prop :=
  (parts = parts' ∧ ∀ found, parts = some found → found.flatten.length ≤ before.length)
    ∨ ∃ lead, lead.flatten.length = before.length + 1
      ∧ parts = some (lead ++ [x]) ∧ parts' = some (lead ++ [y])

theorem agree_map {before : List Nat} {parts parts' : Option (List (List Nat))} (part : List Nat)
    (h : Agree before x y parts parts') :
    Agree (part ++ before) x y (parts.map (part :: ·)) (parts'.map (part :: ·)) := by
  rcases h with ⟨rfl, hshort⟩ | ⟨lead, hlength, rfl, rfl⟩
  · refine Or.inl ⟨rfl, fun found hfound => ?_⟩
    obtain ⟨tail, htail, rfl⟩ := Option.map_eq_some_iff.mp hfound
    rw [List.flatten_cons, List.length_append, List.length_append]
    exact Nat.add_le_add_left (hshort tail htail) _
  · refine Or.inr ⟨part :: lead, ?_, rfl, rfl⟩
    rw [List.flatten_cons, List.length_append, List.length_append, hlength, Nat.add_assoc]

theorem agree_one {symbol : Nat → Bool} (hblank : symbol blank = false)
    {pieces : List (Piece Nat)}
    (h : ∀ before, Agree before x y (consume pieces (before ++ blank :: (x ++ blank :: after)))
      (consume pieces (before ++ blank :: (y ++ blank :: after)))) (before : List Nat) :
    Agree before x y
      (consume (.one symbol :: pieces) (before ++ blank :: (x ++ blank :: after)))
      (consume (.one symbol :: pieces) (before ++ blank :: (y ++ blank :: after))) := by
  cases before with
  | nil =>
      rw [List.nil_append, List.nil_append, consume_one, consume_one, hblank]
      exact Or.inl ⟨rfl, fun found hfound => nomatch hfound⟩
  | cons c rest =>
      rw [List.cons_append, List.cons_append, consume_one, consume_one]
      cases symbol c with
      | false => exact Or.inl ⟨rfl, fun found hfound => nomatch hfound⟩
      | true => exact agree_map [c] (h rest)

/-- White space may reach over the blank, and then the pieces behind it start at the word. -/
theorem agree_space {pieces : List (Piece Nat)}
    (hx : ∀ c ∈ x.head?, isSpaceCode c = false) (hy : ∀ c ∈ y.head?, isSpaceCode c = false)
    (hxne : x ≠ []) (hyne : y ≠ [])
    (h : ∀ before, Agree before x y (consume pieces (before ++ blank :: (x ++ blank :: after)))
      (consume pieces (before ++ blank :: (y ++ blank :: after))))
    (hword : (consume pieces (x ++ blank :: after) = none
        ∧ consume pieces (y ++ blank :: after) = none)
      ∨ consume pieces (x ++ blank :: after) = some [x]
        ∧ consume pieces (y ++ blank :: after) = some [y]) (before : List Nat) :
    Agree before x y
      (consume (.run 0 isSpaceCode :: pieces) (before ++ blank :: (x ++ blank :: after)))
      (consume (.run 0 isSpaceCode :: pieces) (before ++ blank :: (y ++ blank :: after))) := by
  have hrun : ∀ text : List Nat, consume (.run 0 isSpaceCode :: pieces) text
      = (consume pieces (text.dropWhile isSpaceCode)).map (text.takeWhile isSpaceCode :: ·) := by
    intro text
    rw [consume_run, if_neg (Nat.not_lt_zero _)]
  rw [hrun, hrun]
  rcases takeWhile_append_or isSpaceCode before with hall | hstop
  · have hreach : ∀ word : List Nat, (∀ c ∈ word.head?, isSpaceCode c = false) → word ≠ [] →
        (before ++ blank :: (word ++ blank :: after)).takeWhile isSpaceCode = before ++ [blank]
        ∧ (before ++ blank :: (word ++ blank :: after)).dropWhile isSpaceCode
          = word ++ blank :: after := by
      intro word hhead hne
      obtain ⟨c, rest, rfl⟩ := List.exists_cons_of_ne_nil hne
      have hc : isSpaceCode c = false := hhead c rfl
      have hrunAll : ∀ d ∈ before ++ [blank], isSpaceCode d = true := by
        rw [List.forall_mem_append]
        exact ⟨hall, by decide⟩
      have hsplit := takeWhile_append_cons_of_all hc hrunAll (rest ++ blank :: after)
      rwa [List.append_assoc] at hsplit
    obtain ⟨htakeX, hdropX⟩ := hreach x hx hxne
    obtain ⟨htakeY, hdropY⟩ := hreach y hy hyne
    rw [htakeX, hdropX, htakeY, hdropY]
    rcases hword with ⟨hnone, hnone'⟩ | ⟨hsome, hsome'⟩
    · rw [hnone, hnone']
      exact Or.inl ⟨rfl, fun found hfound => nomatch hfound⟩
    · rw [hsome, hsome']
      refine Or.inr ⟨[before ++ [blank]], ?_, rfl, rfl⟩
      rw [List.flatten_singleton, List.length_append, List.length_singleton]
  -- the white space ends before the blank
  · rw [(hstop _).1, (hstop _).2, (hstop _).1, (hstop _).2]
    have hrest := agree_map (before.takeWhile isSpaceCode) (h (before.dropWhile isSpaceCode))
    rwa [List.takeWhile_append_dropWhile] at hrest

/-- A word without white space, comma and semicolon that does not start with a sign. -/
structure IsWord (word : List Nat) : Prop where
  nonempty : word ≠ []
  symbols : ∀ c ∈ word, isValueSymbol c = true
  head : ∀ c ∈ word.head?, isSign c = false

theorem isSpaceCode_of_isValueSymbol {c : Nat} (h : isValueSymbol c = true) :
    isSpaceCode c = false := by
  unfold isValueSymbol at h
  cases hc : isSpaceCode c with
  | false => rfl
  | true => rw [hc] at h; exact absurd h Bool.false_ne_true

theorem IsWord.head_space {word : List Nat} (h : IsWord word) :
    ∀ c ∈ word.head?, isSpaceCode c = false :=
  fun c hc => isSpaceCode_of_isValueSymbol (h.symbols c (List.mem_of_mem_head? hc))

/-- The value of the second pattern is the whole word. -/
theorem consume_value {word : List Nat} (hne : word ≠ [])
    (hsymbols : ∀ c ∈ word, isValueSymbol c = true) (after : List Nat) :
    consume [.run 1 isValueSymbol] (word ++ blank :: after) = some [word] := by
  rw [consume_run_of_all hsymbols (List.length_pos_iff.mpr hne) (by decide)]
  rfl

/-- A word starts with no sign, so no name stands right before it. -/
theorem consume_sign {word : List Nat} (hword : IsWord word) (pieces : List (Piece Nat))
    (after : List Nat) : consume (.one isSign :: pieces) (word ++ after) = none := by
  obtain ⟨c, rest, rfl⟩ := List.exists_cons_of_ne_nil hword.nonempty
  have hc : isSign c = false := hword.head c rfl
  rw [List.cons_append, consume_one, hc]
  rfl

theorem agree_secretPieces (after : List Nat) (hx : IsWord x) (hy : IsWord y) {name : List Nat}
    (hname : ∀ c ∈ name, c ≠ blank) (before : List Nat) :
    Agree before x y (consume (secretPieces name) (before ++ blank :: (x ++ blank :: after)))
      (consume (secretPieces name) (before ++ blank :: (y ++ blank :: after))) := by
  have hvalue : ∀ before : List Nat,
      Agree before x y
        (consume [.run 1 isValueSymbol] (before ++ blank :: (x ++ blank :: after)))
        (consume [.run 1 isValueSymbol] (before ++ blank :: (y ++ blank :: after))) := by
    intro before
    rw [consume_append_cons (by decide), consume_append_cons (by decide)]
    exact Or.inl ⟨rfl, fun found hfound => (flatten_consume hfound).length_le⟩
  have hassigned := agree_space hx.head_space hy.head_space hx.nonempty hy.nonempty hvalue
    (Or.inr ⟨consume_value hx.nonempty hx.symbols after,
      consume_value hy.nonempty hy.symbols after⟩)
  have hsign := agree_one (by decide : isSign blank = false) hassigned
  have hnamed := agree_space hx.head_space hy.head_space hx.nonempty hy.nonempty hsign
    (Or.inl ⟨consume_sign hx _ _, consume_sign hy _ _⟩)
  unfold secretPieces
  induction name generalizing before with
  | nil => exact hnamed before
  | cons c name ih =>
      have hc : (foldCase blank == c) = false :=
        beq_false_of_ne fun heq => hname c List.mem_cons_self heq.symm
      exact agree_one hc (ih fun d hd => hname d (List.mem_cons_of_mem _ hd)) before

theorem uniform_secretValue (hx : IsWord x) (hy : IsWord y) (before : List Nat) :
    Uniform (before ++ [blank]) x y
      (secretValue (before ++ [blank] ++ (x ++ blank :: after)))
      (secretValue (before ++ [blank] ++ (y ++ blank :: after))) := by
  rw [List.append_assoc, List.append_assoc]
  refine uniform_findSome? fun name hname => ?_
  have hblank : ∀ c ∈ name, c ≠ blank :=
    (by decide : ∀ name ∈ secretNames, ∀ c ∈ name, c ≠ blank) name hname
  unfold namedSecret
  have hagree := agree_secretPieces after hx hy hblank before
  rcases hagree with ⟨hsame, hshort⟩ | ⟨lead, hlength, hfound, hfound'⟩
  · refine Or.inl ⟨congrArg _ hsame, fun m hm => ?_⟩
    obtain ⟨parts, hparts, rfl⟩ := Option.map_eq_some_iff.mp hm
    have hle := hshort parts hparts
    rw [List.length_append]
    exact Nat.le_add_right_of_le hle
  · have hcover : ∀ word : List Nat,
        (⟨(lead ++ [word]).dropLast.flatten ++ redacted, (lead ++ [word]).flatten.length⟩ : Match Nat)
          = ⟨lead.flatten ++ redacted, (before ++ [blank] ++ word).length⟩ := by
      intro word
      rw [List.dropLast_concat, List.flatten_concat, List.length_append, List.length_append,
        List.length_append, hlength]
      rfl
    refine Or.inr ⟨lead.flatten ++ redacted, ?_, ?_⟩
    · exact (congrArg _ hfound).trans (congrArg some (hcover x))
    · exact (congrArg _ hfound').trans (congrArg some (hcover y))

end

/-! ## Credentials -/

/-- A secret: not empty, and without white space, comma and semicolon. -/
structure Secret where
  text : List Nat
  nonempty : text ≠ []
  symbols : ∀ c ∈ text, isValueSymbol c = true

/-- The parts of a URI around a password. -/
structure UriParts where
  letter : Nat
  scheme : List Nat
  user : List Nat
  host : List Nat
  scheme_symbols : isLetter letter = true ∧ ∀ c ∈ scheme, isSchemeSymbol c = true
  user_nonempty : user ≠ []
  user_symbols : ∀ c ∈ user, isUserSymbol c = true

inductive Shape
  | bearer
  | quotedPassword
  | assignment
  | uri
  | uriWithoutUser
  deriving DecidableEq

/-- What stands before the secret. -/
def Shape.before (uri : UriParts) : Shape → List Nat
  | .bearer => codePoints "Authorization: Bearer "
  | .quotedPassword => codePoints "\"password\": \""
  | .assignment => codePoints "password="
  | .uri => uri.letter :: (uri.scheme ++ codePoints "://" ++ uri.user ++ codePoints ":")
  | .uriWithoutUser => uri.letter :: (uri.scheme ++ codePoints "://:")

/-- What stands behind the secret. -/
def Shape.behind (uri : UriParts) : Shape → List Nat
  | .bearer => []
  | .quotedPassword => codePoints "\""
  | .assignment => []
  | .uri => codePoints "@" ++ uri.host
  | .uriWithoutUser => codePoints "@" ++ uri.host

/-- A message with a credential between `pre` and `post`. -/
def errorText (shape : Shape) (uri : UriParts) (pre post : List Nat) (secret : Secret) :
    List Nat :=
  pre ++ blank :: (shape.before uri ++ (secret.text ++ (shape.behind uri ++ blank :: post)))

/-- In every message the two secrets leave the same stored text. -/
def SameStored (shape : Shape) (secret other : Secret) : Prop :=
  ∀ uri pre post, sanitizeError (errorText shape uri pre post secret)
    = sanitizeError (errorText shape uri pre post other)

/-- The stored text tells the secret from no secret without an `@`. -/
def Hides (shape : Shape) (secret : Secret) : Prop :=
  ∀ other : Secret, '@'.toNat ∉ other.text → SameStored shape secret other

/-! ## Leads that no pattern touches -/

theorem substitute_uriPassword_lead {lead : List Nat}
    (h : refusesWithin uriPieces lead = true) (text : List Nat) :
    substitute uriPassword (lead ++ text) = lead ++ substitute uriPassword text := by
  refine substitute_append_of_none fun suffix hsuffix hne => ?_
  unfold uriPassword
  rw [consume_of_refuses (refuses_of_suffix h hsuffix hne)]
  rfl

theorem substitute_secretValue_lead {lead : List Nat}
    (h : ∀ name ∈ secretNames, refusesWithin (secretPieces name) lead = true) (text : List Nat) :
    substitute secretValue (lead ++ text) = lead ++ substitute secretValue text := by
  refine substitute_append_of_none fun suffix hsuffix hne => ?_
  refine List.findSome?_eq_none_iff.mpr fun name hname => ?_
  unfold namedSecret
  rw [consume_of_refuses (refuses_of_suffix (h name hname) hsuffix hne)]
  rfl

/-! ## The value of an assignment -/

/-- A text consumes the pieces of its own symbols. -/
theorem consume_symbols {name : List Nat} (hname : ∀ c ∈ name, foldCase c = c)
    (pieces : List (Piece Nat)) (text : List Nat) :
    consume (name.map symbolPiece ++ pieces) (name ++ text)
      = (consume pieces text).map (name.map ([·]) ++ ·) := by
  induction name with
  | nil => exact Option.map_id'.symm
  | cons c name ih =>
      rw [List.forall_mem_cons] at hname
      have hc : (foldCase c == c) = true := beq_iff_eq.mpr hname.1
      show (if foldCase c == c then (consume (name.map symbolPiece ++ pieces) (name ++ text)).map
        ([c] :: ·) else none) = _
      rw [if_pos hc, ih hname.2, Option.map_map]
      rfl

/-- The second pattern replaces the value of an assignment. -/
theorem secretValue_assignment {value : List Nat} (hne : value ≠ [])
    (hsymbols : ∀ c ∈ value, isValueSymbol c = true) (after : List Nat) :
    secretValue (codePoints "password=" ++ (value ++ blank :: after))
      = some ⟨codePoints "password=" ++ redacted, (codePoints "password=" ++ value).length⟩ := by
  have hvalue : consume [.run 0 isSpaceCode, .run 1 isValueSymbol] (value ++ blank :: after)
      = some [[], value] := by
    have hword := consume_value hne hsymbols after
    obtain ⟨c, rest, rfl⟩ := List.exists_cons_of_ne_nil hne
    have hc := isSpaceCode_of_isValueSymbol (hsymbols c List.mem_cons_self)
    rw [consume_run, if_neg (Nat.not_lt_zero _), List.cons_append,
      List.takeWhile_cons_of_neg (by simp [hc]), List.dropWhile_cons_of_neg (by simp [hc]),
      ← List.cons_append, hword]
    rfl
  have hsign : consume [.run 0 isSpaceCode, .one isSign, .run 0 isSpaceCode, .run 1 isValueSymbol]
      (codePoints "=" ++ (value ++ blank :: after)) = some [[], codePoints "=", [], value] := by
    show ((consume [.run 0 isSpaceCode, .run 1 isValueSymbol] (value ++ blank :: after)).map
      (['='.toNat] :: ·)).map ([] :: ·) = _
    rw [hvalue]
    rfl
  have hnamed : namedSecret (codePoints "password")
        (codePoints "password=" ++ (value ++ blank :: after))
      = some ⟨codePoints "password=" ++ redacted, (codePoints "password=" ++ value).length⟩ := by
    have happend : codePoints "password=" ++ (value ++ blank :: after)
        = codePoints "password" ++ (codePoints "=" ++ (value ++ blank :: after)) := rfl
    unfold namedSecret secretPieces
    rw [happend, consume_symbols (by decide), hsign]
    show some (⟨_, (codePoints "password=" ++ (value ++ [])).length⟩ : Match Nat) = _
    rw [List.append_nil]
    rfl
  unfold secretValue secretNames
  rw [List.map_cons, List.findSome?_cons, hnamed]

/-- Any two values of an assignment leave the same stored text. -/
theorem sameStored_assignment (secret other : Secret) : SameStored .assignment secret other := by
  intro uri pre post
  have huri : ∀ value : Secret, substitute uriPassword (errorText .assignment uri pre post value)
      = substitute uriPassword pre ++ [blank]
        ++ (codePoints "password=" ++ substitute uriPassword value.text
          ++ blank :: substitute uriPassword post) := by
    intro value
    have htext : errorText .assignment uri pre post value
        = pre ++ blank :: ((codePoints "password=" ++ value.text) ++ blank :: post) := rfl
    rw [htext, substitute_uriPassword_blank, substitute_uriPassword_blank,
      substitute_uriPassword_lead (by decide)]
    exact (List.append_assoc _ [blank] _).symm
  have hne : ∀ value : Secret, substitute uriPassword value.text ≠ [] := by
    intro value hnil
    have hhead := head?_substitute_uriPassword value.text
    rw [hnil] at hhead
    exact value.nonempty (List.head?_eq_none_iff.mp hhead.symm)
  have hword : ∀ value : Secret,
      IsWord (codePoints "password=" ++ substitute uriPassword value.text) := by
    intro value
    refine ⟨List.cons_ne_nil _ _, ?_, ?_⟩
    · rw [List.forall_mem_append]
      exact ⟨by decide, isValueSymbol_substitute value.symbols⟩
    · intro c hc
      cases hc
      decide
  have hbehind : ∀ value : Secret,
      substitute secretValue (codePoints "password=" ++ substitute uriPassword value.text
          ++ blank :: substitute uriPassword post)
        = codePoints "password=" ++ redacted
          ++ substitute secretValue (blank :: substitute uriPassword post) := by
    intro value
    have hmatch := secretValue_assignment (hne value) (isValueSymbol_substitute value.symbols)
      (substitute uriPassword post)
    rw [← List.append_assoc] at hmatch
    rw [substitute_some proper_secretValue hmatch, List.drop_left]
  have hredacted : redactSecrets (errorText .assignment uri pre post secret)
      = redactSecrets (errorText .assignment uri pre post other) := by
    unfold redactSecrets
    rw [huri, huri]
    refine substitute_congr_infix proper_secretValue ((hbehind _).trans (hbehind _).symm) _
      fun suffix hsuffix hsuffixNe => ?_
    rcases List.suffix_concat_iff.mp hsuffix with hnil | ⟨before, rfl, -⟩
    · exact absurd hnil hsuffixNe
    · exact uniform_secretValue (hword secret) (hword other) before
  unfold sanitizeError
  rw [hredacted]

/-! ## The password of a URI -/

/-- What the first pattern consumes of a URI with a user name and a password. -/
theorem consume_uri (uri : UriParts) {password : List Nat} (hne : password ≠ [])
    (hsymbols : ∀ c ∈ password, isPasswordSymbol c = true) (rest : List Nat) :
    consume uriPieces (Shape.uri.before uri ++ (password ++ '@'.toNat :: rest))
      = some [[uri.letter], uri.scheme, codePoints ":", codePoints "/", codePoints "/", uri.user,
        codePoints ":", password, codePoints "@"] := by
  have hpassword : consume [symbolPiece ':'.toNat, .run 1 isPasswordSymbol, symbolPiece '@'.toNat]
      (':'.toNat :: (password ++ '@'.toNat :: rest))
      = some [codePoints ":", password, codePoints "@"] := by
    show (consume [.run 1 isPasswordSymbol, symbolPiece '@'.toNat]
      (password ++ '@'.toNat :: rest)).map (codePoints ":" :: ·) = _
    rw [consume_run_of_all hsymbols (List.length_pos_iff.mpr hne) (by decide)]
    rfl
  have hauthority : consume [symbolPiece ':'.toNat, symbolPiece '/'.toNat, symbolPiece '/'.toNat,
        .run 1 isUserSymbol, symbolPiece ':'.toNat, .run 1 isPasswordSymbol,
        symbolPiece '@'.toNat]
      (codePoints "://" ++ (uri.user ++ ':'.toNat :: (password ++ '@'.toNat :: rest)))
      = some [codePoints ":", codePoints "/", codePoints "/", uri.user, codePoints ":", password,
        codePoints "@"] := by
    show (((consume [.run 1 isUserSymbol, symbolPiece ':'.toNat, .run 1 isPasswordSymbol,
        symbolPiece '@'.toNat]
      (uri.user ++ ':'.toNat :: (password ++ '@'.toNat :: rest))).map
        (codePoints "/" :: ·)).map (codePoints "/" :: ·)).map (codePoints ":" :: ·) = _
    rw [consume_run_of_all uri.user_symbols (List.length_pos_iff.mpr uri.user_nonempty) (by decide),
      hpassword]
    rfl
  have htext : Shape.uri.before uri ++ (password ++ '@'.toNat :: rest)
      = uri.letter :: (uri.scheme ++ ':'.toNat :: (codePoints "//"
        ++ (uri.user ++ ':'.toNat :: (password ++ '@'.toNat :: rest)))) := by
    show uri.letter :: (uri.scheme ++ codePoints "://" ++ uri.user ++ codePoints ":"
      ++ (password ++ '@'.toNat :: rest)) = _
    simp only [List.append_assoc]
    rfl
  rw [htext, uriPieces, consume_one, if_pos uri.scheme_symbols.1,
    consume_run_of_all uri.scheme_symbols.2 (Nat.zero_le _) (by decide)]
  exact congrArg _ (congrArg _ hauthority)

/-- The first pattern replaces the password of a URI up to the first `@`. -/
theorem substitute_uriPassword_uri (uri : UriParts) {password : List Nat} (hne : password ≠ [])
    (hsymbols : ∀ c ∈ password, isPasswordSymbol c = true) (rest : List Nat) :
    substitute uriPassword (Shape.uri.before uri ++ (password ++ '@'.toNat :: rest))
      = Shape.uri.before uri ++ (redacted ++ '@'.toNat :: substitute uriPassword rest) := by
  have hconsume := consume_uri uri hne hsymbols rest
  have hmatch : uriPassword (Shape.uri.before uri ++ (password ++ '@'.toNat :: rest))
      = some ⟨Shape.uri.before uri ++ (redacted ++ codePoints "@"),
        (Shape.uri.before uri ++ (password ++ codePoints "@")).length⟩ := by
    have hflatten : ∀ value : List Nat, [[uri.letter], uri.scheme, codePoints ":", codePoints "/",
        codePoints "/", uri.user, codePoints ":", value, codePoints "@"].flatten
        = Shape.uri.before uri ++ (value ++ codePoints "@") := by
      intro value
      show _ = uri.letter :: (uri.scheme ++ codePoints "://" ++ uri.user ++ codePoints ":"
        ++ (value ++ codePoints "@"))
      simp only [List.flatten_cons, List.flatten_nil, List.append_assoc, List.append_nil]
      rfl
    unfold uriPassword
    rw [hconsume]
    show some (⟨[[uri.letter], uri.scheme, codePoints ":", codePoints "/", codePoints "/", uri.user,
      codePoints ":", redacted, codePoints "@"].flatten, _⟩ : Match Nat) = _
    rw [hflatten, hflatten]
  have hdrop : Shape.uri.before uri ++ (password ++ '@'.toNat :: rest)
      = Shape.uri.before uri ++ (password ++ codePoints "@") ++ rest := by
    simp only [List.append_assoc]
    rfl
  rw [substitute_some proper_uriPassword hmatch, hdrop, List.drop_left, List.append_assoc,
    List.append_assoc]
  rfl

theorem isPasswordSymbol_of_secret {text : List Nat}
    (hsymbols : ∀ c ∈ text, isValueSymbol c = true) (hat : '@'.toNat ∉ text) :
    ∀ c ∈ text, isPasswordSymbol c = true := by
  intro c hc
  have hspace := isSpaceCode_of_isValueSymbol (hsymbols c hc)
  have hne : (c == '@'.toNat) = false := beq_false_of_ne fun heq => hat (heq ▸ hc)
  unfold isPasswordSymbol
  rw [hne, hspace]
  rfl

/-- Any two passwords without an `@` leave the same stored text. -/
theorem sameStored_uri {secret other : Secret} (hsecret : '@'.toNat ∉ secret.text)
    (hother : '@'.toNat ∉ other.text) : SameStored .uri secret other := by
  intro uri pre post
  have huri : ∀ value : Secret, '@'.toNat ∉ value.text →
      substitute uriPassword (errorText .uri uri pre post value)
        = substitute uriPassword pre ++ blank :: (Shape.uri.before uri
          ++ (redacted ++ '@'.toNat :: substitute uriPassword (uri.host ++ blank :: post))) := by
    intro value hvalue
    have htext : errorText .uri uri pre post value
        = pre ++ blank :: (Shape.uri.before uri
          ++ (value.text ++ '@'.toNat :: (uri.host ++ blank :: post))) := rfl
    rw [htext, substitute_uriPassword_blank, substitute_uriPassword_uri uri value.nonempty
      (isPasswordSymbol_of_secret value.symbols hvalue)]
  unfold sanitizeError redactSecrets
  rw [huri secret hsecret, huri other hother]

/-! ## Secrets that show -/

/-- What stands before the first white space of a redacted message is the beginning of the stored
text. -/
theorem prefix_sanitizeError {message lead rest : List Nat}
    (h : redactSecrets message = blank :: (lead ++ rest)) (hne : lead ≠ [])
    (hlead : ∀ c ∈ lead, isSpaceCode c = false) (hlength : lead.length ≤ 1000) :
    lead <+: sanitizeError message := by
  have hsplit : ∀ word : List Nat, (∀ c ∈ word, isSpaceCode c = false) →
      ∃ first words, (word ++ rest).splitOnP isSpaceCode = (word ++ first) :: words := by
    intro word
    induction word with
    | nil =>
        intro _
        exact List.exists_cons_of_ne_nil (List.splitOnP_ne_nil _ rest)
    | cons c word ih =>
        intro hword
        rw [List.forall_mem_cons] at hword
        obtain ⟨first, words, hwords⟩ := ih hword.2
        refine ⟨first, words, ?_⟩
        rw [List.cons_append, List.splitOnP_cons_eq_if_modifyHead, hwords, hword.1]
        rfl
  obtain ⟨first, words, hwords⟩ := hsplit lead hlead
  have hflat : ∃ behind, flattenSpace (redactSecrets message) = lead ++ behind := by
    have hfirst : (!(lead ++ first).isEmpty) = true := by
      cases lead with
      | nil => exact absurd rfl hne
      | cons c lead => rfl
    unfold flattenSpace split
    rw [h, List.splitOnP_cons_eq_if_modifyHead, if_pos (by decide), hwords,
      List.filter_cons_of_neg (by decide),
      List.filter_cons_of_pos (p := fun word : List Nat => !word.isEmpty) hfirst]
    cases words.filter fun word => !word.isEmpty with
    | nil => exact ⟨first ++ [], List.append_assoc _ _ _⟩
    | cons word words =>
        exact ⟨first ++ ([' '.toNat] ++ ((word :: words).intersperse [' '.toNat]).flatten),
          List.append_assoc _ _ _⟩
  obtain ⟨behind, hbehind⟩ := hflat
  have hnonempty : lead ++ behind ≠ [] := List.append_ne_nil_of_left_ne_nil hne behind
  unfold sanitizeError
  rw [hbehind]
  show lead <+: (if lead ++ behind = [] then _ else lead ++ behind).take 1000
  rw [if_neg hnonempty, List.take_append, List.take_of_length_le hlength]
  exact List.prefix_append _ _

/-- A secret of one letter. -/
def plainSecret (c : Char) (h : isValueSymbol c.toNat = true) : Secret where
  text := [c.toNat]
  nonempty := List.cons_ne_nil _ _
  symbols := List.forall_mem_singleton.mpr h

/-- `a://u:..@` before a host of one letter. -/
def shortUri (host : Char) : UriParts where
  letter := 'a'.toNat
  scheme := []
  user := codePoints "u"
  host := [host.toNat]
  scheme_symbols := by decide
  user_nonempty := by decide
  user_symbols := by decide

/-- Two secrets of one letter show in a shape, and then every secret does. -/
theorem not_hides_of_letters {shape : Shape}
    (hne : sanitizeError (errorText shape (shortUri 'h') [] [] (plainSecret 'x' (by decide)))
      ≠ sanitizeError (errorText shape (shortUri 'h') [] [] (plainSecret 'y' (by decide))))
    (secret : Secret) : ¬ Hides shape secret := by
  intro h
  have hx := h (plainSecret 'x' (by decide)) (by decide) (shortUri 'h') [] []
  have hy := h (plainSecret 'y' (by decide)) (by decide) (shortUri 'h') [] []
  exact hne (hx.symm.trans hy)

theorem errorText_uri (host : Char) {secret : Secret} {before behind : List Nat}
    (htext : secret.text = before ++ '@'.toNat :: behind) :
    errorText .uri (shortUri host) [] [] secret
      = blank :: (Shape.uri.before (shortUri host)
        ++ (before ++ '@'.toNat :: (behind ++ '@'.toNat :: [host.toNat, blank]))) := by
  show blank :: (Shape.uri.before (shortUri host)
    ++ (secret.text ++ '@'.toNat :: [host.toNat, blank])) = _
  rw [htext, List.append_assoc]
  rfl

/-- A password that starts with an `@` is no password to the pattern, so the `@` shows. -/
theorem prefix_of_leading_at (host : Char) {secret : Secret} {behind : List Nat}
    (htext : secret.text = '@'.toNat :: behind) :
    codePoints "a://u:@" <+: sanitizeError (errorText .uri (shortUri host) [] [] secret) := by
  have hempty : secret.text = [] ++ '@'.toNat :: behind := htext
  have hlead : errorText .uri (shortUri host) [] [] secret
      = codePoints " a://u:@" ++ (behind ++ '@'.toNat :: [host.toNat, blank]) := by
    rw [errorText_uri host hempty]
    rfl
  have hredacted : redactSecrets (errorText .uri (shortUri host) [] [] secret)
      = blank :: (codePoints "a://u:@"
        ++ substitute secretValue (substitute uriPassword
          (behind ++ '@'.toNat :: [host.toNat, blank]))) := by
    unfold redactSecrets
    rw [hlead, substitute_uriPassword_lead (by decide), substitute_secretValue_lead (by decide)]
    rfl
  exact prefix_sanitizeError hredacted (by decide) (by decide) (by decide)

/-- The text behind the first `@` of a password stays, with its first symbol. -/
theorem prefix_of_at (host : Char) {secret : Secret} {before behind : List Nat}
    (htext : secret.text = before ++ '@'.toNat :: behind) (hbefore : '@'.toNat ∉ before)
    (hne : before ≠ []) {d : Nat} {rest : List Nat}
    (hrest : behind ++ '@'.toNat :: [host.toNat, blank] = d :: rest)
    (hspace : isSpaceCode d = false) :
    codePoints "a://u:[REDACTED]@" ++ [d]
      <+: sanitizeError (errorText .uri (shortUri host) [] [] secret) := by
  have hsymbols := secret.symbols
  rw [htext, List.forall_mem_append] at hsymbols
  have huri : substitute uriPassword (errorText .uri (shortUri host) [] [] secret)
      = codePoints " a://u:[REDACTED]@" ++ substitute uriPassword (d :: rest) := by
    have hsplit := substitute_uriPassword_blank [] (Shape.uri.before (shortUri host)
      ++ (before ++ '@'.toNat :: (d :: rest)))
    rw [substitute_uriPassword_uri _ hne
      (isPasswordSymbol_of_secret hsymbols.1 hbefore)] at hsplit
    rw [errorText_uri host htext, hrest]
    exact hsplit
  have hhead : (substitute secretValue (substitute uriPassword (d :: rest))).head? = some d := by
    rw [head?_substitute_secretValue, head?_substitute_uriPassword]
    rfl
  obtain ⟨tail, htail⟩ := List.head?_eq_some_iff.mp hhead
  have hredacted : redactSecrets (errorText .uri (shortUri host) [] [] secret)
      = blank :: (codePoints "a://u:[REDACTED]@" ++ [d] ++ tail) := by
    unfold redactSecrets
    rw [huri, substitute_secretValue_lead (by decide), htail, List.append_assoc]
    rfl
  refine prefix_sanitizeError hredacted (List.append_ne_nil_of_right_ne_nil _ (by simp)) ?_ ?_
  · rw [List.forall_mem_append]
    exact ⟨by decide, List.forall_mem_singleton.mpr hspace⟩
  · exact (by decide : (codePoints "a://u:[REDACTED]@").length + 1 ≤ 1000)

/-- What follows the first `@` of a password starts with one symbol, whatever the host is. -/
theorem exists_head_behind {behind : List Nat} (hsymbols : ∀ c ∈ behind, isValueSymbol c = true) :
    ∃ d, (∀ host : Char, ∃ rest, behind ++ '@'.toNat :: [host.toNat, blank] = d :: rest)
      ∧ isSpaceCode d = false := by
  cases behind with
  | nil => exact ⟨'@'.toNat, fun host => ⟨[host.toNat, blank], rfl⟩, by decide⟩
  | cons d rest =>
      exact ⟨d, fun host => ⟨rest ++ '@'.toNat :: [host.toNat, blank], rfl⟩,
        isSpaceCode_of_isValueSymbol (hsymbols d List.mem_cons_self)⟩

/-- What follows an `@` in a password shows. -/
theorem not_hides_uri {secret : Secret} (hat : '@'.toNat ∈ secret.text) : ¬ Hides .uri secret := by
  intro h
  obtain ⟨before, behind, htext, hbefore⟩ := List.eq_append_cons_of_mem hat
  have hplain : ∀ host : Char, sanitizeError (errorText .uri (shortUri host) [] [] secret)
      = sanitizeError (errorText .uri (shortUri host) [] [] (plainSecret 'x' (by decide))) :=
    fun host => h _ (by decide) _ _ _
  by_cases hnil : before = []
  · -- the pattern needs a symbol before the `@`
    have hprefix := prefix_of_leading_at 'h' (htext.trans (by rw [hnil, List.nil_append]))
    rw [hplain] at hprefix
    revert hprefix
    decide +kernel
  · have hsymbols := secret.symbols
    rw [htext, List.forall_mem_append, List.forall_mem_cons] at hsymbols
    obtain ⟨d, hd, hspace⟩ := exists_head_behind hsymbols.2.2
    -- no symbol is the first letter of both hosts
    have hletter : ∀ host : Char, sanitizeError (errorText .uri (shortUri host) [] []
        (plainSecret 'x' (by decide))) = codePoints "a://u:[REDACTED]@" ++ [host.toNat] →
        d = host.toNat := by
      intro host hstored
      obtain ⟨rest, hrest⟩ := hd host
      have hbegin := prefix_of_at host htext hbefore hnil hrest hspace
      rw [hplain, hstored, List.prefix_append_right_inj] at hbegin
      exact (List.cons_prefix_cons.mp hbegin).1
    have hg : d = 'g'.toNat := hletter 'g' (by decide +kernel)
    have hh : d = 'h'.toNat := hletter 'h' (by decide +kernel)
    exact absurd (hg.symm.trans hh) (by decide)

/-- **Which credentials leave no trace** in the stored text: the value of an assignment, and the
password of a URI with a user name if it contains no `@`. -/
theorem hides_iff (shape : Shape) (secret : Secret) :
    Hides shape secret
      ↔ shape = .assignment ∨ shape = .uri ∧ '@'.toNat ∉ secret.text := by
  have hother : shape ≠ .assignment → shape ≠ .uri →
      ¬ (shape = .assignment ∨ shape = .uri ∧ '@'.toNat ∉ secret.text) :=
    fun hassignment huri h => h.elim hassignment fun h => huri h.1
  cases shape with
  | bearer =>
      exact iff_of_false (not_hides_of_letters (by decide +kernel) secret)
        (hother (by decide) (by decide))
  | quotedPassword =>
      exact iff_of_false (not_hides_of_letters (by decide +kernel) secret)
        (hother (by decide) (by decide))
  | assignment => exact iff_of_true (fun other _ => sameStored_assignment secret other) (Or.inl rfl)
  | uri =>
      constructor
      · intro h
        exact Or.inr ⟨rfl, fun hat => not_hides_uri hat h⟩
      · rintro (hshape | ⟨-, hat⟩)
        · exact Shape.noConfusion hshape
        · exact fun other hother => sameStored_uri hat hother
  | uriWithoutUser =>
      exact iff_of_false (not_hides_of_letters (by decide +kernel) secret)
        (hother (by decide) (by decide))

/-- The token behind `Bearer` is stored as it is. -/
theorem bearer_token_stored :
    sanitizeError (errorText .bearer (shortUri 'h') [] [] (plainSecret 'x' (by decide)))
        = codePoints "Authorization: [REDACTED] x"
      ∧ ¬ ∀ shape secret other, SameStored shape secret other := by
  refine ⟨by decide +kernel, fun hall => ?_⟩
  have hsame := hall .bearer (plainSecret 'x' (by decide)) (plainSecret 'y' (by decide))
    (shortUri 'h') [] []
  revert hsame
  decide +kernel

end AnalyticsRefresh
