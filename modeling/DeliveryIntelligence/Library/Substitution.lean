import Mathlib.Tactic

set_option autoImplicit false

/-!
# Replacing the matches of a pattern

A pattern is given by its match at the start of a text, if there is one: what replaces it and how
many symbols it consumes, at least one. `substitute` replaces the matches from left to right,
none of which overlaps another one. Two texts that differ in one place only have the same result
if every match before that place ends before it, or replaces it as a whole
(`substitute_congr_infix`).

A pattern without alternatives is a list of pieces (`Piece`), which consume the text one after the
other. No piece gives back what it has consumed, so a run must be followed by a piece that none of
its symbols starts.
-/

namespace Substitution

/-- A match at the start of a text. -/
structure Match (α : Type) where
  replacement : List α
  length : Nat
  deriving DecidableEq

/-- A pattern by its match at the start of a text. -/
abbrev Matcher (α : Type) := List α → Option (Match α)

variable {α : Type} {matcher : Matcher α}

/-- The substitution, where `skip` symbols of a match are still to be dropped. -/
def substituteFrom (matcher : Matcher α) (skip : Nat) : List α → List α
  | [] => []
  | c :: rest =>
      match skip with
      | skip + 1 => substituteFrom matcher skip rest
      | 0 =>
          match matcher (c :: rest) with
          | some found => found.replacement ++ substituteFrom matcher (found.length - 1) rest
          | none => c :: substituteFrom matcher 0 rest

def substitute (matcher : Matcher α) (text : List α) : List α := substituteFrom matcher 0 text

/-- A match consumes a nonempty part of the text. -/
def Proper (matcher : Matcher α) : Prop :=
  ∀ text found, matcher text = some found → 1 ≤ found.length ∧ found.length ≤ text.length

theorem substituteFrom_eq (skip : Nat) (text : List α) :
    substituteFrom matcher skip text = substitute matcher (text.drop skip) := by
  induction text generalizing skip with
  | nil => cases skip <;> rfl
  | cons c rest ih =>
      cases skip with
      | zero => rfl
      | succ skip => exact ih skip

@[simp] theorem substitute_nil : substitute matcher ([] : List α) = [] := rfl

/-- A match is replaced, and the substitution goes on behind it. -/
theorem substitute_some (hproper : Proper matcher) {text : List α} {found : Match α}
    (h : matcher text = some found) :
    substitute matcher text
      = found.replacement ++ substitute matcher (text.drop found.length) := by
  obtain ⟨hpos, hlength⟩ := hproper text found h
  cases text with
  | nil => exact absurd (hpos.trans hlength) (Nat.not_succ_le_zero 0)
  | cons c rest =>
      show (match matcher (c :: rest) with | some found => _ | none => _) = _
      rw [h]
      show found.replacement ++ substituteFrom matcher (found.length - 1) rest = _
      rw [substituteFrom_eq]
      obtain ⟨n, hn⟩ := Nat.exists_eq_add_of_le' hpos
      rw [hn]
      rfl

/-- Where nothing matches, the symbol stays. -/
theorem substitute_none {c : α} {rest : List α} (h : matcher (c :: rest) = none) :
    substitute matcher (c :: rest) = c :: substitute matcher rest := by
  show (match matcher (c :: rest) with | some found => _ | none => _) = _
  rw [h]
  rfl

/-- Where nothing matches within a prefix, it stays. -/
theorem substitute_append_of_none {lead text : List α}
    (h : ∀ suffix, suffix <:+ lead → suffix ≠ [] → matcher (suffix ++ text) = none) :
    substitute matcher (lead ++ text) = lead ++ substitute matcher text := by
  induction lead with
  | nil => rfl
  | cons c rest ih =>
      have hfirst : matcher (c :: (rest ++ text)) = none :=
        h (c :: rest) List.suffix_rfl (List.cons_ne_nil c rest)
      rw [List.cons_append, substitute_none hfirst,
        ih fun suffix hsuffix => h suffix (hsuffix.trans (List.suffix_cons c rest))]
      rfl

/-- A replacement that starts with the symbol it replaces keeps the first symbol of a text. -/
theorem head?_substitute (hproper : Proper matcher)
    (hhead : ∀ text found, matcher text = some found →
      found.replacement.head? = text.head?) (text : List α) :
    (substitute matcher text).head? = text.head? := by
  cases text with
  | nil => rfl
  | cons c rest =>
      cases h : matcher (c :: rest) with
      | none => rw [substitute_none h]; rfl
      | some found =>
          have hfirst := hhead _ _ h
          rw [substitute_some hproper h]
          cases hreplacement : found.replacement with
          | nil => rw [hreplacement] at hfirst; cases hfirst
          | cons d replacement =>
              rw [hreplacement] at hfirst
              exact hfirst

/-- A property of symbols that the replacements keep holds of the result. -/
theorem forall_mem_substitute (hproper : Proper matcher) {P : α → Prop}
    (hkeep : ∀ text found, matcher text = some found → (∀ c ∈ text, P c) →
      ∀ c ∈ found.replacement, P c) {text : List α} (h : ∀ c ∈ text, P c) :
    ∀ c ∈ substitute matcher text, P c := by
  -- on the length, since a match may consume any part of the text
  induction hn : text.length using Nat.strong_induction_on generalizing text with
  | _ n ih =>
      cases text with
      | nil => exact fun c hc => absurd hc List.not_mem_nil
      | cons d rest =>
          cases hmatch : matcher (d :: rest) with
          | none =>
              rw [substitute_none hmatch, List.forall_mem_cons]
              rw [List.forall_mem_cons] at h
              exact ⟨h.1, ih rest.length (by rw [← hn]; exact Nat.lt_succ_self _) h.2 rfl⟩
          | some found =>
              obtain ⟨hpos, hlength⟩ := hproper _ _ hmatch
              rw [substitute_some hproper hmatch, List.forall_mem_append]
              refine ⟨hkeep _ _ hmatch h, ih _ ?_ (fun c hc => h c (List.mem_of_mem_drop hc)) rfl⟩
              rw [List.length_drop]
              omega

/-- A symbol that no match contains separates what is left of it from what is right of it. -/
theorem substitute_append_separator (hproper : Proper matcher) {w : α} {text : List α}
    (hlocal : ∀ before, matcher (before ++ w :: text) = matcher before) (before : List α) :
    substitute matcher (before ++ w :: text)
      = substitute matcher before ++ w :: substitute matcher text := by
  induction hn : before.length using Nat.strong_induction_on generalizing before with
  | _ n ih =>
      have hsame := hlocal before
      cases before with
      | nil =>
          have hnil : matcher [] = none := by
            by_contra h
            obtain ⟨found, hfound⟩ := Option.ne_none_iff_exists'.mp h
            obtain ⟨hpos, hlength⟩ := hproper _ _ hfound
            exact absurd (hpos.trans hlength) (Nat.not_succ_le_zero 0)
          exact substitute_none (hsame.trans hnil)
      | cons c rest =>
          cases hmatch : matcher (c :: rest) with
          | none =>
              have hlong : matcher (c :: (rest ++ w :: text)) = none := hsame.trans hmatch
              rw [substitute_none hmatch, List.cons_append, substitute_none hlong,
                ih rest.length (by rw [← hn]; exact Nat.lt_succ_self _) rest rfl]
              rfl
          | some found =>
              obtain ⟨hpos, hlength⟩ := hproper _ _ hmatch
              rw [substitute_some hproper hmatch, substitute_some hproper (hsame.trans hmatch),
                List.drop_append_of_le_length hlength, List.append_assoc, ih _ ?_ _ rfl]
              rw [List.length_drop]
              omega

/-- In two texts that differ in one place only, by `x` and `y` behind `before`, the matches are the
same and end before it, or cover it in the same way. -/
def Uniform (before x y : List α) (found found' : Option (Match α)) : Prop :=
  (found = found' ∧ ∀ m, found = some m → m.length ≤ before.length)
    ∨ ∃ replacement, found = some ⟨replacement, (before ++ x).length⟩
      ∧ found' = some ⟨replacement, (before ++ y).length⟩

/-- The first match of several patterns. -/
theorem uniform_findSome? {β : Type} {before x y text text' : List α} {matchers : β → Matcher α}
    {names : List β}
    (h : ∀ name ∈ names, Uniform before x y (matchers name text) (matchers name text')) :
    Uniform before x y (names.findSome? fun name => matchers name text)
      (names.findSome? fun name => matchers name text') := by
  induction names with
  | nil => exact Or.inl ⟨rfl, fun m hm => nomatch hm⟩
  | cons name names ih =>
      have hrest := ih fun name hname => h name (List.mem_cons_of_mem _ hname)
      rw [List.findSome?_cons, List.findSome?_cons]
      rcases h name List.mem_cons_self with ⟨hsame, hshort⟩ | ⟨replacement, hx, hy⟩
      · rw [← hsame]
        cases hmatch : matchers name text with
        | none => exact hrest
        | some found => exact Or.inl ⟨rfl, fun m hm => hshort m (hmatch.trans hm)⟩
      · rw [hx, hy]
        exact Or.inr ⟨replacement, rfl, rfl⟩

/-- Two texts that differ in one place have the same result, if the matches before it are uniform
and the results from there on are the same. -/
theorem substitute_congr_infix (hproper : Proper matcher) {x y after : List α}
    (hbehind : substitute matcher (x ++ after) = substitute matcher (y ++ after))
    (before : List α)
    (hbefore : ∀ suffix, suffix <:+ before → suffix ≠ [] →
      Uniform suffix x y (matcher (suffix ++ (x ++ after))) (matcher (suffix ++ (y ++ after)))) :
    substitute matcher (before ++ (x ++ after)) = substitute matcher (before ++ (y ++ after)) := by
  induction hn : before.length using Nat.strong_induction_on generalizing before with
  | _ n ih =>
      cases before with
      | nil => exact hbehind
      | cons c rest =>
          have hsuffix : ∀ suffix, suffix <:+ rest → suffix <:+ c :: rest :=
            fun suffix h => h.trans (List.suffix_cons c rest)
          rcases hbefore (c :: rest) List.suffix_rfl (List.cons_ne_nil c rest) with
            ⟨hsame, hshort⟩ | ⟨replacement, hx, hy⟩
          · cases hmatch : matcher (c :: rest ++ (x ++ after)) with
            | none =>
                rw [hmatch] at hsame
                have hx : matcher (c :: (rest ++ (x ++ after))) = none := hmatch
                have hy : matcher (c :: (rest ++ (y ++ after))) = none := hsame.symm
                rw [List.cons_append, List.cons_append, substitute_none hx, substitute_none hy,
                  ih rest.length (by rw [← hn]; exact Nat.lt_succ_self _)
                    rest (fun suffix h => hbefore suffix (hsuffix suffix h)) rfl]
            | some found =>
                have hlength := hshort found hmatch
                have hmatch' : matcher (c :: rest ++ (y ++ after)) = some found :=
                  hsame.symm.trans hmatch
                obtain ⟨hpos, -⟩ := hproper _ _ hmatch
                rw [substitute_some hproper hmatch, substitute_some hproper hmatch',
                  List.drop_append_of_le_length hlength, List.drop_append_of_le_length hlength,
                  ih _ ?_ _ (fun suffix h => hbefore suffix (h.trans (List.drop_suffix _ _))) rfl]
                rw [List.length_drop]
                omega
          -- the match covers the place, and behind it the texts agree
          · rw [substitute_some hproper hx, substitute_some hproper hy, ← List.append_assoc,
              ← List.append_assoc, List.drop_left, List.drop_left]

/-! ## Patterns -/

/-- A piece of a pattern. -/
inductive Piece (α : Type)
  /-- one symbol of a class -/
  | one (symbol : α → Bool)
  /-- a longest run of symbols of a class, of a least length -/
  | run (least : Nat) (symbol : α → Bool)

def Piece.symbol : Piece α → α → Bool
  | .one symbol => symbol
  | .run _ symbol => symbol

/-- The parts of a text that the pieces consume. -/
def consume : List (Piece α) → List α → Option (List (List α))
  | [], _ => some []
  | .one _ :: _, [] => none
  | .one symbol :: pieces, c :: rest =>
      if symbol c then (consume pieces rest).map ([c] :: ·) else none
  | .run least symbol :: pieces, text =>
      if (text.takeWhile symbol).length < least then none
      else (consume pieces (text.dropWhile symbol)).map (text.takeWhile symbol :: ·)

theorem consume_one (symbol : α → Bool) (pieces : List (Piece α)) (c : α) (rest : List α) :
    consume (.one symbol :: pieces) (c :: rest)
      = if symbol c then (consume pieces rest).map ([c] :: ·) else none := rfl

theorem consume_run (least : Nat) (symbol : α → Bool) (pieces : List (Piece α)) (text : List α) :
    consume (.run least symbol :: pieces) text
      = if (text.takeWhile symbol).length < least then none
        else (consume pieces (text.dropWhile symbol)).map (text.takeWhile symbol :: ·) := by
  cases text <;> rfl

/-- A pattern that starts with one symbol consumes it. -/
theorem consume_one_some {symbol : α → Bool} {pieces : List (Piece α)} {text : List α}
    {parts : List (List α)} (h : consume (.one symbol :: pieces) text = some parts) :
    ∃ c rest tail, text = c :: rest ∧ parts = [c] :: tail ∧ consume pieces rest = some tail := by
  cases text with
  | nil => cases h
  | cons c rest =>
      rw [consume_one] at h
      split at h
      · obtain ⟨tail, htail, rfl⟩ := Option.map_eq_some_iff.mp h
        exact ⟨c, rest, tail, rfl, rfl, htail⟩
      · cases h

theorem consume_run_some {least : Nat} {symbol : α → Bool} {pieces : List (Piece α)}
    {text : List α} {parts : List (List α)}
    (h : consume (.run least symbol :: pieces) text = some parts) :
    ∃ tail, parts = text.takeWhile symbol :: tail
      ∧ consume pieces (text.dropWhile symbol) = some tail := by
  rw [consume_run] at h
  split at h
  · cases h
  · obtain ⟨tail, htail, rfl⟩ := Option.map_eq_some_iff.mp h
    exact ⟨tail, rfl, htail⟩

/-- What the pieces consume is the beginning of the text. -/
theorem flatten_consume {pieces : List (Piece α)} {text : List α} {parts : List (List α)}
    (h : consume pieces text = some parts) : parts.flatten <+: text := by
  induction pieces generalizing text parts with
  | nil =>
      cases h
      exact List.nil_prefix
  | cons piece pieces ih =>
      cases piece with
      | one symbol =>
          obtain ⟨c, rest, tail, rfl, rfl, htail⟩ := consume_one_some h
          exact List.cons_prefix_cons.mpr ⟨rfl, ih htail⟩
      | run least symbol =>
          obtain ⟨tail, rfl, htail⟩ := consume_run_some h
          have happend := (List.prefix_append_right_inj (text.takeWhile symbol)).mpr (ih htail)
          rwa [List.takeWhile_append_dropWhile] at happend

/-- The pieces consume one part each. -/
theorem length_consume {pieces : List (Piece α)} {text : List α} {parts : List (List α)}
    (h : consume pieces text = some parts) : parts.length = pieces.length := by
  induction pieces generalizing text parts with
  | nil =>
      cases h
      rfl
  | cons piece pieces ih =>
      cases piece with
      | one symbol =>
          obtain ⟨c, rest, tail, rfl, rfl, htail⟩ := consume_one_some h
          exact congrArg Nat.succ (ih htail)
      | run least symbol =>
          obtain ⟨tail, rfl, htail⟩ := consume_run_some h
          exact congrArg Nat.succ (ih htail)

/-- A run covers the first part of a text, or what it does depends on that part only. -/
theorem takeWhile_append_or (symbol : α → Bool) (before : List α) :
    (∀ c ∈ before, symbol c = true)
      ∨ ∀ text, (before ++ text).takeWhile symbol = before.takeWhile symbol
        ∧ (before ++ text).dropWhile symbol = before.dropWhile symbol ++ text := by
  induction before with
  | nil => exact Or.inl fun c hc => absurd hc List.not_mem_nil
  | cons c rest ih =>
      cases hc : symbol c with
      | false => exact Or.inr fun text => by simp [hc]
      | true =>
          rcases ih with hall | hstop
          · exact Or.inl (List.forall_mem_cons.mpr ⟨hc, hall⟩)
          · exact Or.inr fun text => by simp [hc, hstop text]

/-- A run stops at a symbol outside its class. -/
theorem takeWhile_append_cons {symbol : α → Bool} {w : α} (hw : symbol w = false)
    (before text : List α) :
    (before ++ w :: text).takeWhile symbol = before.takeWhile symbol
      ∧ (before ++ w :: text).dropWhile symbol = before.dropWhile symbol ++ w :: text := by
  induction before with
  | nil =>
      rw [List.nil_append, List.takeWhile_cons_of_neg (by simp [hw]),
        List.dropWhile_cons_of_neg (by simp [hw])]
      exact ⟨rfl, rfl⟩
  | cons c rest ih =>
      cases hc : symbol c with
      | true => simp [hc, ih.1, ih.2]
      | false => simp [hc]

/-- A run that covers what is before a symbol outside its class. -/
theorem takeWhile_append_cons_of_all {symbol : α → Bool} {w : α} (hw : symbol w = false)
    {run : List α} (hrun : ∀ c ∈ run, symbol c = true) (text : List α) :
    (run ++ w :: text).takeWhile symbol = run ∧ (run ++ w :: text).dropWhile symbol = w :: text := by
  rw [List.takeWhile_append_of_pos hrun, List.dropWhile_append_of_pos hrun,
    List.takeWhile_cons_of_neg (by simp [hw]), List.dropWhile_cons_of_neg (by simp [hw]),
    List.append_nil]
  exact ⟨rfl, rfl⟩

/-- A run consumes all symbols of its class before one outside of it. -/
theorem consume_run_of_all {least : Nat} {symbol : α → Bool} {run : List α} {w : α}
    (hrun : ∀ c ∈ run, symbol c = true) (hleast : least ≤ run.length) (hw : symbol w = false)
    (pieces : List (Piece α)) (text : List α) :
    consume (.run least symbol :: pieces) (run ++ w :: text)
      = (consume pieces (w :: text)).map (run :: ·) := by
  obtain ⟨htake, hdrop⟩ := takeWhile_append_cons_of_all hw hrun text
  rw [consume_run, htake, hdrop, if_neg (Nat.not_lt.mpr hleast)]

/-- A symbol outside all classes of a pattern ends the text for it. -/
theorem consume_append_cons {pieces : List (Piece α)} {w : α}
    (hw : ∀ piece ∈ pieces, piece.symbol w = false) (before text : List α) :
    consume pieces (before ++ w :: text) = consume pieces before := by
  induction pieces generalizing before with
  | nil => rfl
  | cons piece pieces ih =>
      have hrest := ih fun piece h => hw piece (List.mem_cons_of_mem _ h)
      have hfirst := hw piece List.mem_cons_self
      cases piece with
      | one symbol =>
          cases before with
          | nil =>
              have hnot : symbol w = false := hfirst
              rw [List.nil_append, consume_one, hnot]
              rfl
          | cons c rest => rw [List.cons_append, consume_one, consume_one, hrest]
      | run least symbol =>
          have hnot : symbol w = false := hfirst
          obtain ⟨htake, hdrop⟩ := takeWhile_append_cons hnot before text
          rw [consume_run, consume_run, htake, hdrop, hrest]

/-- The pieces fail within the text, whatever follows it. -/
def refuses : List (Piece α) → List α → Bool
  | [], _ => false
  | .one _ :: _, [] => false
  | .one symbol :: pieces, c :: rest => if symbol c then refuses pieces rest else true
  | .run least symbol :: pieces, text =>
      match text.dropWhile symbol with
      | [] => false
      | c :: rest =>
          if (text.takeWhile symbol).length < least then true else refuses pieces (c :: rest)

theorem consume_of_refuses {pieces : List (Piece α)} {lead : List α}
    (h : refuses pieces lead = true) (text : List α) : consume pieces (lead ++ text) = none := by
  induction pieces generalizing lead with
  | nil => exact absurd h Bool.false_ne_true
  | cons piece pieces ih =>
      cases piece with
      | one symbol =>
          cases lead with
          | nil => exact absurd h Bool.false_ne_true
          | cons c rest =>
              have hcons : (if symbol c then refuses pieces rest else true) = true := h
              rw [List.cons_append, consume_one]
              cases hc : symbol c with
              | false => rfl
              | true =>
                  rw [hc] at hcons
                  rw [if_pos rfl, ih hcons]
                  rfl
      | run least symbol =>
          rcases takeWhile_append_or symbol lead with hall | hstop
          · have hnil : lead.dropWhile symbol = [] := by
              rw [← List.append_nil lead, List.dropWhile_append_of_pos hall]
              rfl
            unfold refuses at h
            rw [hnil] at h
            exact absurd h Bool.false_ne_true
          · obtain ⟨htake, hdrop⟩ := hstop text
            rw [consume_run, htake, hdrop]
            unfold refuses at h
            split at h
            · exact absurd h Bool.false_ne_true
            · rename_i c rest hrest
              rw [hrest]
              split at h
              · rename_i hshort
                rw [if_pos hshort]
              · rename_i hlong
                rw [if_neg hlong, ih h]
                rfl

/-- A text in which a pattern fails at every place, whatever follows the text. -/
def refusesWithin (pieces : List (Piece α)) (lead : List α) : Bool :=
  lead.tails.all fun suffix => suffix.isEmpty || refuses pieces suffix

theorem refuses_of_suffix {pieces : List (Piece α)} {lead suffix : List α}
    (h : refusesWithin pieces lead = true) (hsuffix : suffix <:+ lead) (hne : suffix ≠ []) :
    refuses pieces suffix = true := by
  have hall := List.all_eq_true.mp h suffix ((List.mem_tails _ _).mpr hsuffix)
  cases suffix with
  | nil => exact absurd rfl hne
  | cons c rest => exact hall

end Substitution
