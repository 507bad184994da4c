/-
LintMend.Proofs.Configuration.Substitution — references are replaced in one pass from the left.

A text is scanned once: where a reference starts, the whole of it is one item, and the scan goes on
behind it; elsewhere each code point is an item of its own. What is put in for the items is not
scanned again. The scan is told apart from the substitution, by a relation, and it is also what the
search for the pattern of references finds.

  `Scanned`, `exists_scanned`, `Scanned.unique` — the one scan of a text
  `substitute_scanned`         — what becomes of a text, by its scan
  `Scanned.append`             — where a text can be cut
  `pieces_scanned`             — the scan as the search for a pattern
  `substitute_exact`           — all of this, for every text and environment
-/
import LintMend.Configuration.Reference
import LintMend.Pattern.Reader
import LintMend.Proofs.Pattern.Scanning
import LintMend.Proofs.Text.Cutting

namespace LintMend.Environment

variable {env : Environment} {t name after rest a b : Text} {c : CodePoint}

/-! ## 1. References -/

/-- What can stand between the braces: something, but no closing brace. -/
def IsName (name : Text) : Prop :=
  name ≠ [] ∧ (⟨0x7D⟩ : CodePoint) ∉ name

/-- A reference as it is written: a dollar sign and the name in braces. -/
def reference (name : Text) : Text :=
  ⟨0x24⟩ :: ⟨0x7B⟩ :: (name ++ [⟨0x7D⟩])

/-- A reference is next. -/
def StartsReference (t : Text) : Prop :=
  ∃ name after, IsName name ∧ t = reference name ++ after

theorem reference?_eq_some_iff :
    reference? t = some (name, after) ↔ IsName name ∧ t = reference name ++ after := by
  constructor
  · intro h
    unfold reference? at h
    split at h
    · split at h
      · next first rest after' hcut =>
        obtain ⟨rfl, rfl⟩ := Prod.mk.inj (Option.some.inj h)
        obtain ⟨rfl, hbrace⟩ := Text.cut?_eq_some_iff.mp hcut
        exact ⟨⟨List.cons_ne_nil _ _, hbrace⟩, by simp [reference]⟩
      · exact nomatch h
    · exact nomatch h
  · rintro ⟨⟨hne, hbrace⟩, rfl⟩
    obtain ⟨first, rest, rfl⟩ := List.exists_cons_of_ne_nil hne
    have hcut : Text.cut? ⟨0x7D⟩ (first :: rest ++ (⟨0x7D⟩ : CodePoint) :: after) =
        some (first :: rest, after) := Text.cut?_eq_some_iff.mpr ⟨rfl, hbrace⟩
    have htext : reference (first :: rest) ++ after =
        ⟨0x24⟩ :: ⟨0x7B⟩ :: (first :: rest ++ (⟨0x7D⟩ : CodePoint) :: after) := by
      simp [reference]
    rw [htext, reference?, hcut]

theorem reference?_eq_none_iff : reference? t = none ↔ ¬ StartsReference t := by
  constructor
  · rintro hnone ⟨name, after, hname, ht⟩
    rw [reference?_eq_some_iff.mpr ⟨hname, ht⟩] at hnone
    exact nomatch hnone
  · intro hno
    cases href : reference? t with
    | none => rfl
    | some pair =>
      obtain ⟨name, after⟩ := pair
      exact absurd ⟨name, after, reference?_eq_some_iff.mp href⟩ hno

/-- The name of a reference is all up to the next closing brace. -/
theorem reference_inj {name' after' : Text} (hname : IsName name) (hname' : IsName name')
    (h : reference name ++ after = reference name' ++ after') : name = name' ∧ after = after' := by
  have hleft : reference? (reference name ++ after) = some (name, after) :=
    reference?_eq_some_iff.mpr ⟨hname, rfl⟩
  have hright := reference?_eq_some_iff.mpr ⟨hname', h⟩
  exact Prod.mk.inj (Option.some.inj (hleft.symm.trans hright))

/-! ## 2. The scan of a text -/

/-- An item of a text: a code point as it is, or a reference. -/
inductive Item where
  | plain (c : CodePoint)
  | named (name : Text)
  deriving DecidableEq, Repr

/-- The items of a text, from left to right. -/
inductive Scanned : Text → List Item → Prop where
  | done : Scanned [] []
  | plain {c : CodePoint} {rest : Text} {items : List Item} (hnone : ¬ StartsReference (c :: rest))
      (hrest : Scanned rest items) : Scanned (c :: rest) (.plain c :: items)
  | named {name rest : Text} {items : List Item} (hname : IsName name)
      (hrest : Scanned rest items) : Scanned (reference name ++ rest) (.named name :: items)

variable {items others : List Item}

/-- Every text has a scan. -/
theorem exists_scanned (t : Text) : ∃ items, Scanned t items := by
  -- a reference is longer than one code point, so the induction is on the length
  induction hlength : t.length using Nat.strongRecOn generalizing t with
  | _ n ih =>
    subst hlength
    by_cases href : StartsReference t
    · obtain ⟨name, after, hname, rfl⟩ := href
      have hshort : after.length < (reference name ++ after).length := by
        simp only [reference, List.length_append, List.length_cons]
        omega
      obtain ⟨items, hitems⟩ := ih _ hshort after rfl
      exact ⟨_, .named hname hitems⟩
    · cases t with
      | nil => exact ⟨[], .done⟩
      | cons c rest =>
        obtain ⟨items, hitems⟩ := ih rest.length (Nat.lt_succ_self _) rest rfl
        exact ⟨_, .plain href hitems⟩

/-- And only one. -/
theorem Scanned.unique (h : Scanned t items) (h' : Scanned t others) : others = items := by
  induction h generalizing others with
  | done =>
    cases h' with
    | done => rfl
  | @plain c rest items hnone hrest ih =>
    generalize htext : c :: rest = text at h'
    cases h' with
    | done => exact nomatch htext
    | plain hnone' hrest' =>
      obtain ⟨rfl, rfl⟩ := List.cons.inj htext
      rw [ih hrest']
    | named hname hrest' => exact absurd ⟨_, _, hname, htext⟩ hnone
  | @named name rest items hname hrest ih =>
    generalize htext : reference name ++ rest = text at h'
    cases h' with
    | done => exact nomatch htext
    | plain hnone' hrest' => exact absurd ⟨_, _, hname, htext.symm⟩ hnone'
    | named hname' hrest' =>
      obtain ⟨rfl, rfl⟩ := reference_inj hname hname' htext
      rw [ih hrest']

/-! ## 3. What becomes of the items -/

/-- The names that items refer to, in order. -/
def names (items : List Item) : List Text :=
  items.filterMap fun item =>
    match item with
    | .plain _ => none
    | .named name => some name

/-- What is put in for an item: the code point itself, or the value verbatim. -/
def Item.written (env : Environment) : Item → Text
  | .plain c => [c]
  | .named name => (env.value? name).getD []

/-- The first name that is not defined. -/
def firstMissing? (env : Environment) (items : List Item) : Option Text :=
  (names items).find? fun name => (env.value? name).isNone

/-- What items make together: the text with the values put in, or the failure of the first name
that is not defined. -/
def replaced (env : Environment) (items : List Item) : Except Failure Text :=
  match env.firstMissing? items with
  | some name => .error (missing name)
  | none => .ok (items.flatMap (Item.written env))

theorem substitute_nil : substitute env [] = .ok [] := by
  simp [substitute, reference?]

theorem substitute_plain (h : ¬ StartsReference (c :: rest)) :
    substitute env (c :: rest) = (substitute env rest).map (c :: ·) := by
  rw [substitute]
  split
  next name after href => exact absurd ⟨_, _, reference?_eq_some_iff.mp href⟩ h
  next href =>
    simp only []
    cases substitute env rest <;> rfl

theorem substitute_named (hname : IsName name) :
    substitute env (reference name ++ rest) =
      (env.value name).bind fun v => (substitute env rest).map (v ++ ·) := by
  rw [substitute]
  split
  next name' after href =>
    obtain ⟨hname', htext⟩ := reference?_eq_some_iff.mp href
    obtain ⟨rfl, rfl⟩ := reference_inj hname hname' htext
    cases env.value name with
    | error failure => rfl
    | ok v => cases substitute env rest <;> rfl
  next href => exact absurd ⟨_, _, hname, rfl⟩ (reference?_eq_none_iff.mp href)

theorem replaced_plain :
    replaced env (.plain c :: items) = (replaced env items).map (c :: ·) := by
  show (match firstMissing? env items with | some name => _ | none => _) = _
  rw [replaced]
  cases firstMissing? env items <;> rfl

theorem replaced_named : replaced env (.named name :: items) =
    (env.value name).bind fun v => (replaced env items).map (v ++ ·) := by
  rw [replaced, firstMissing?, value]
  cases hvalue : env.value? name with
  | none => simp [names, hvalue, Except.bind]
  | some v =>
    have hnames : (names (.named name :: items)).find? (fun n => (env.value? n).isNone) =
        firstMissing? env items := by
      simp [names, firstMissing?, hvalue]
    rw [hnames, replaced]
    cases firstMissing? env items with
    | none => simp [Except.bind, Except.map, Item.written, hvalue]
    | some missed => rfl

/-- **What becomes of a text is read off its scan.** -/
theorem substitute_scanned (env : Environment) (h : Scanned t items) :
    substitute env t = replaced env items := by
  induction h with
  | done => exact substitute_nil
  | plain hnone hrest ih => rw [substitute_plain hnone, replaced_plain, ih]
  | named hname hrest ih => rw [substitute_named hname, replaced_named, ih]

/-! ## 4. Where a text can be cut -/

/-- No reference that starts in the text can end behind it: every opening brace after a dollar sign
has a closing one after it, and the text does not end between the two. -/
structure Closed (t : Text) : Prop where
  closes : ∀ before after, t = before ++ ⟨0x24⟩ :: ⟨0x7B⟩ :: after → (⟨0x7D⟩ : CodePoint) ∈ after
  last : t.getLast? ≠ some ⟨0x24⟩

theorem Closed.of_append (h : Closed (a ++ b)) : Closed b where
  closes before after hb := h.closes (a ++ before) after (by rw [hb, List.append_assoc])
  last hlast := h.last (by rw [List.getLast?_append, hlast, Option.some_or])

/-- What follows a closed text makes no reference in it. -/
theorem Closed.startsReference (h : Closed (c :: a)) (hstarts : StartsReference (c :: (a ++ b))) :
    StartsReference (c :: a) := by
  obtain ⟨name, after, hname, htext⟩ := hstarts
  obtain ⟨rfl, htail⟩ := List.cons.inj htext
  cases a with
  | nil => exact absurd rfl h.last
  | cons d a =>
    obtain ⟨rfl, hrest⟩ := List.cons.inj htail
    -- the first closing brace after the opening one is in the text, so the name ends there
    obtain ⟨left, right, hcut⟩ := Text.exists_cut? (h.closes [] a rfl)
    obtain ⟨rfl, hleft⟩ := Text.cut?_eq_some_iff.mp hcut
    have hshort : Text.cut? ⟨0x7D⟩ (left ++ (⟨0x7D⟩ : CodePoint) :: (right ++ b)) =
        some (left, right ++ b) := Text.cut?_eq_some_iff.mpr ⟨rfl, hleft⟩
    have hlong : Text.cut? ⟨0x7D⟩ (left ++ (⟨0x7D⟩ : CodePoint) :: (right ++ b)) =
        some (name, after) := Text.cut?_eq_some_iff.mpr ⟨by simpa using hrest, hname.2⟩
    obtain ⟨rfl, -⟩ := Prod.mk.inj (Option.some.inj (hshort.symm.trans hlong))
    exact ⟨left, right, hname, by simp [reference]⟩

/-- **Behind a closed text the scan starts anew.** -/
theorem Scanned.append (ha : Scanned a items) (hclosed : Closed a) (hb : Scanned b others) :
    Scanned (a ++ b) (items ++ others) := by
  induction ha with
  | done => exact hb
  | @plain c rest items hnone hrest ih =>
    have htail : Closed rest := hclosed.of_append (a := [c])
    exact .plain (fun hstarts => hnone (hclosed.startsReference hstarts)) (ih htail)
  | @named name rest items hname hrest ih =>
    rw [List.append_assoc]
    exact .named hname (ih hclosed.of_append)

theorem replaced_append : replaced env (items ++ others) = do
    let u ← replaced env items
    let v ← replaced env others
    return u ++ v := by
  have hfirst : firstMissing? env (items ++ others) =
      (firstMissing? env items).or (firstMissing? env others) := by
    simp [firstMissing?, names, List.filterMap_append, List.find?_append]
  rw [replaced, replaced, replaced, hfirst]
  cases firstMissing? env items with
  | some name => rfl
  | none =>
    cases firstMissing? env others with
    | some name => rfl
    | none => simp [Bind.bind, Except.bind, Pure.pure, Except.pure]

/-! ## 5. The scan as a search -/

/-- The class of what can stand in a name: anything but a closing brace. -/
def nameClass : CharClass := ⟨[.range ⟨0x7D⟩ ⟨0x7D⟩], true⟩

/-- What is searched for: a dollar sign, and the name in braces, as a group. -/
def referencePattern : Pattern :=
  .all [.one (.single ⟨0x24⟩), .one (.single ⟨0x7B⟩),
    .group 1 (.oneOrMore (.one nameClass)), .one (.single ⟨0x7D⟩)]

/-- The pattern as it is written. -/
theorem read_referencePattern :
    Pattern.read "\\$\\\x7b([^\x7d]+)\\\x7d" = .ok (referencePattern, 1) := by
  decide +kernel

theorem holds_nameClass : nameClass.holds c = true ↔ c ≠ ⟨0x7D⟩ := by
  have hrange := Pattern.holds_range_self (c := ⟨0x7D⟩) (d := c)
  simp [nameClass, CharClass.holds, ← hrange]

theorem words_single {w : Text} : (Pattern.one (.single c)).Words w ↔ w = [c] := by
  constructor
  · rintro ⟨d, hd, rfl⟩
    rw [Pattern.holds_single_iff.mp hd]
  · rintro rfl
    exact ⟨c, Pattern.holds_single_iff.mpr rfl, rfl⟩

theorem words_name : (Pattern.oneOrMore (.one nameClass)).Words name ↔ IsName name := by
  rw [Pattern.oneOrMore, Pattern.words_repeat_one, IsName]
  constructor
  · rintro ⟨hlength, -, hall⟩
    refine ⟨List.length_pos_iff.mp hlength, ?_⟩
    intro hbrace
    exact holds_nameClass.mp (hall _ hbrace) rfl
  · rintro ⟨hne, hbrace⟩
    refine ⟨List.length_pos_iff.mpr hne, ⟨fun _ hm => (nomatch hm), ?_⟩⟩
    intro c hc
    refine holds_nameClass.mpr ?_
    rintro rfl
    exact hbrace hc

/-- The words of the pattern are the references. -/
theorem words_referencePattern {w : Text} :
    referencePattern.Words w ↔ ∃ name, IsName name ∧ w = reference name := by
  constructor
  · rintro ⟨dollar, w₁, rfl, hdollar, opening, w₂, rfl, hopening, name, closing, rfl, hname, hclosing⟩
    rw [words_single.mp hdollar, words_single.mp hopening, words_single.mp hclosing]
    exact ⟨name, words_name.mp hname, rfl⟩
  · rintro ⟨name, hname, rfl⟩
    exact ⟨_, _, rfl, words_single.mpr rfl, _, _, rfl, words_single.mpr rfl, _, _, rfl,
      words_name.mpr hname, words_single.mpr rfl⟩

theorem next_referencePattern : referencePattern.Next t ↔ StartsReference t := by
  constructor
  · rintro ⟨w, hw, after, rfl⟩
    obtain ⟨name, hname, rfl⟩ := words_referencePattern.mp hw
    exact ⟨name, after, hname, rfl⟩
  · rintro ⟨name, after, hname, rfl⟩
    exact ⟨_, words_referencePattern.mpr ⟨name, hname, rfl⟩, List.prefix_append _ _⟩

/-- A run that can be followed only where it ends takes all of it. -/
theorem runRepeat_all {α : Type} {k : CharClass} {next : Spot → Option α} {w : Text}
    {stop : CodePoint} {groups : List (Nat × Text)} (hw : ∀ c ∈ w, k.holds c = true)
    (hstop : k.holds stop = false) {fuel least : Nat} {before : Text} (hleast : least ≤ w.length)
    (hfuel : w.length < fuel) (hnext : (next ⟨w.reverse ++ before, stop :: rest, groups⟩).isSome) :
    Pattern.runRepeat (Pattern.one k).run true fuel least none
        ⟨before, w ++ stop :: rest, groups⟩ next =
      next ⟨w.reverse ++ before, stop :: rest, groups⟩ := by
  induction w generalizing fuel least before with
  | nil =>
    obtain rfl : least = 0 := Nat.le_zero.mp hleast
    obtain ⟨fuel, rfl⟩ := Nat.exists_eq_succ_of_ne_zero (Nat.ne_of_gt hfuel)
    simp [Pattern.runRepeat, Pattern.run, hstop]
  | cons c w ih =>
    obtain ⟨hc, hw⟩ := List.forall_mem_cons.mp hw
    obtain ⟨fuel, rfl⟩ := Nat.exists_eq_succ_of_ne_zero (Nat.ne_of_gt (Nat.zero_lt_of_lt hfuel))
    have hspot : (c :: w).reverse ++ before = w.reverse ++ c :: before := by simp
    rw [hspot] at hnext ⊢
    have hshort : w.length < fuel := Nat.lt_of_succ_lt_succ hfuel
    cases least with
    | zero =>
      obtain ⟨a, ha⟩ := Option.isSome_iff_exists.mp hnext
      rw [Pattern.runRepeat, if_neg (Option.some_ne_none 0).symm, if_pos rfl, List.cons_append,
        Pattern.run_one_at hc, if_neg (by simp), Option.map_none, ih hw (Nat.zero_le _) hshort hnext,
        ha]
      rfl
    | succ least =>
      rw [Pattern.runRepeat, List.cons_append, Pattern.run_one_at hc, Option.map_none,
        ih hw (Nat.le_of_succ_le_succ hleast) hshort hnext]

/-- The search takes a whole reference, with the name as its group. -/
theorem matchAt?_reference (hname : IsName name) (before rest : Text) :
    referencePattern.matchAt? false ⟨before, reference name ++ rest, []⟩ =
      some ⟨(reference name).reverse ++ before, rest, [(1, name)]⟩ := by
  have hall : ∀ c ∈ name, nameClass.holds c = true := by
    intro c hc
    refine holds_nameClass.mpr ?_
    rintro rfl
    exact hname.2 hc
  have hlength : 1 ≤ name.length := List.length_pos_iff.mpr hname.1
  have hsingle : ∀ {d : CodePoint}, (CharClass.single d).holds d = true :=
    Pattern.holds_single_iff.mpr rfl
  have htext : reference name ++ rest =
      ⟨0x24⟩ :: ⟨0x7B⟩ :: (name ++ (⟨0x7D⟩ : CodePoint) :: rest) := by
    simp [reference]
  -- what is left to do behind the name: remember it and take the closing brace
  let start : Spot := ⟨⟨0x7B⟩ :: ⟨0x24⟩ :: before, name ++ (⟨0x7D⟩ : CodePoint) :: rest, []⟩
  let close (s : Spot) : Option Spot :=
    (Pattern.one (.single ⟨0x7D⟩)).run (start.remember 1 s) some
  have hclose : close ⟨name.reverse ++ ⟨0x7B⟩ :: ⟨0x24⟩ :: before, (⟨0x7D⟩ : CodePoint) :: rest, []⟩ =
      some ⟨(reference name).reverse ++ before, rest, [(1, name)]⟩ := by
    have hgroup : start.textTo ⟨name.reverse ++ ⟨0x7B⟩ :: ⟨0x24⟩ :: before,
        (⟨0x7D⟩ : CodePoint) :: rest, []⟩ = name := by
      simp [Spot.textTo, start]
    show (Pattern.one (.single ⟨0x7D⟩)).run ⟨_, _, (1, _) :: []⟩ some = _
    rw [hgroup, Pattern.run_one_at hsingle]
    simp [reference]
  rw [Pattern.matchAt?_false, htext]
  show (Pattern.seq (.one (.single ⟨0x24⟩)) (.seq (.one (.single ⟨0x7B⟩))
    (.seq (.group 1 (.repeat true 1 none (.one nameClass))) (.one (.single ⟨0x7D⟩))))).run _ _ = _
  rw [Pattern.run, Pattern.run_one_at hsingle, Pattern.run, Pattern.run_one_at hsingle,
    Pattern.run, Pattern.run, Pattern.run]
  show Pattern.runRepeat (Pattern.one nameClass).run true _ 1 none _ close = _
  rw [runRepeat_all hall (Bool.eq_false_iff.mpr fun h => holds_nameClass.mp h rfl) hlength ?_ ?_,
    hclose]
  · simp
    omega
  · rw [hclose]
    rfl

/-- What the search finds for an item. -/
def Item.piece : Item → Pattern.Piece
  | .plain c => .kept c
  | .named name => .found (reference name) [(1, name)]

/-- **The scan of a text is what the search finds in it**, from left to right and without overlaps. -/
theorem pieces_scanned (h : Scanned t items) : referencePattern.pieces t = items.map Item.piece := by
  have hlocal : referencePattern.isLocal = true := by decide
  have hnonempty : ¬ referencePattern.Words [] := by
    intro hnil
    obtain ⟨name, -, hname⟩ := words_referencePattern.mp hnil
    exact nomatch hname
  -- the scan does not look at what it has passed, so the induction holds for any text before
  have hscan : ∀ fuel before, t.length < fuel →
      referencePattern.scan fuel ⟨before, t, []⟩ = items.map Item.piece := by
    induction h with
    | done =>
      intro fuel before hfuel
      obtain ⟨fuel, rfl⟩ := Nat.exists_eq_succ_of_ne_zero (Nat.ne_of_gt hfuel)
      have hnone : referencePattern.matchAt? false ⟨before, [], []⟩ = none := by rfl
      rw [Pattern.scan, hnone]
      rfl
    | @plain c rest items hnone hrest ih =>
      intro fuel before hfuel
      obtain ⟨fuel, rfl⟩ := Nat.exists_eq_succ_of_ne_zero (Nat.ne_of_gt (Nat.zero_lt_of_lt hfuel))
      have hmatch : referencePattern.matchAt? false ⟨before, c :: rest, []⟩ = none := by
        rw [← Option.not_isSome_iff_eq_none, Pattern.matchAt?_isSome_iff hlocal, next_referencePattern]
        exact hnone
      rw [Pattern.scan, hmatch]
      exact congrArg (.kept c :: ·) (ih fuel (c :: before) (Nat.lt_of_succ_lt_succ hfuel))
    | @named name rest items hname hrest ih =>
      intro fuel before hfuel
      obtain ⟨fuel, rfl⟩ := Nat.exists_eq_succ_of_ne_zero (Nat.ne_of_gt (Nat.zero_lt_of_lt hfuel))
      have htext : Spot.textTo ⟨before, reference name ++ rest, []⟩
          ⟨(reference name).reverse ++ before, rest, [(1, name)]⟩ = reference name := by
        simp [Spot.textTo]
      have hshort : rest.length < fuel := by
        simp only [reference, List.length_append, List.length_cons] at hfuel
        omega
      rw [Pattern.scan, matchAt?_reference hname]
      simp only [htext, ih fuel _ hshort, List.map_cons, Item.piece]
  rw [Pattern.pieces_eq_scan hlocal hnonempty]
  exact hscan _ _ (Nat.lt_succ_self _)

/-! ## 6. Every text and environment -/

theorem find?_missing_eq_none {defined : List Text} (h : ∀ n ∈ defined, (env.value? n).isSome) :
    defined.find? (fun n => (env.value? n).isNone) = none := by
  refine List.find?_eq_none.mpr ?_
  intro n hn
  simpa using Option.isSome_iff_ne_none.mp (h n hn)

/-- The first name that is not defined, by what stands before it. -/
theorem firstMissing?_eq_some {before later : List Text} (h : names items = before ++ name :: later)
    (hbefore : ∀ n ∈ before, (env.value? n).isSome) (hname : env.value? name = none) :
    env.firstMissing? items = some name := by
  rw [firstMissing?, h, List.find?_append, find?_missing_eq_none hbefore, Option.none_or,
    List.find?_cons_of_pos (by rw [hname, Option.isNone_none])]

/-- **Substitution is exact and a single pass.** Every text has one scan, which is what the search
for references finds. If all its names are defined, the values are put in verbatim and the rest is
as it was; else the first name that is not is reported, or, if it cannot be a name at all, the fault
in it. And what follows a closed text does not change what becomes of that. -/
theorem substitute_exact (env : Environment) :
    (∀ t, ∃ items, Scanned t items ∧ (∀ others, Scanned t others → others = items) ∧
      referencePattern.pieces t = items.map Item.piece ∧
      ((∀ name ∈ names items, (env.value? name).isSome) →
        env.substitute t = .ok (items.flatMap (Item.written env))) ∧
      ∀ before name later, names items = before ++ name :: later →
        (∀ n ∈ before, (env.value? n).isSome) → env.value? name = none →
        (Utf8.nameFault? name = none →
          env.substitute t = .error (.badValue ("Environment variable " ++ name ++ " not found"))) ∧
        ∀ e, Utf8.nameFault? name = some e → env.substitute t = .error (.unencodable e)) ∧
    ∀ a b, Closed a → env.substitute (a ++ b) = do
      let u ← env.substitute a
      let v ← env.substitute b
      return u ++ v := by
  constructor
  · intro t
    obtain ⟨items, hitems⟩ := exists_scanned t
    refine ⟨items, hitems, fun others => hitems.unique, pieces_scanned hitems, ?_, ?_⟩
    · intro hdefined
      have hnone : env.firstMissing? items = none := find?_missing_eq_none hdefined
      rw [substitute_scanned env hitems, replaced, hnone]
    · intro before name later hnames hbefore hname
      have hfirst := firstMissing?_eq_some hnames hbefore hname
      rw [substitute_scanned env hitems, replaced, hfirst]
      constructor
      · intro hvalid
        simp only [missing, hvalid]
      · intro e hfault
        simp only [missing, hfault]
  · intro a b hclosed
    obtain ⟨items, hitems⟩ := exists_scanned a
    obtain ⟨others, hothers⟩ := exists_scanned b
    rw [substitute_scanned env (hitems.append hclosed hothers), substitute_scanned env hitems,
      substitute_scanned env hothers, replaced_append]

/-- A reference whose name is a surrogate that stands alone. -/
def loneReference : Text := reference [⟨0xD800⟩]

theorem scanned_loneReference : Scanned loneReference [.named [⟨0xD800⟩]] := by
  have hname : IsName [⟨0xD800⟩] := ⟨List.cons_ne_nil _ _, by decide⟩
  have hscanned := Scanned.named hname .done
  rwa [List.append_nil] at hscanned

/-- **Not every missing name is named**: what cannot be a name is refused when it is looked up. -/
theorem substitute_unnamed : ¬ ∀ (env : Environment) (t : Text) (items : List Item) (name : Text),
    Scanned t items → env.firstMissing? items = some name →
    ∃ failure, env.substitute t = .error failure ∧ failure.isBadValue = true ∧
      name <:+: failure.message := by
  intro hnamed
  obtain ⟨failure, hfailure, -, hmessage⟩ :=
    hnamed [] loneReference [.named [⟨0xD800⟩]] [⟨0xD800⟩] scanned_loneReference (by decide)
  have hfault : Environment.substitute [] loneReference =
      .error (.unencodable ⟨[⟨0xD800⟩], 0⟩) := by
    rw [substitute_scanned [] scanned_loneReference]
    rfl
  obtain rfl := Except.error.inj (hfault.symm.trans hfailure)
  have hmem : (⟨0xD800⟩ : CodePoint) ∈ (Failure.unencodable ⟨[⟨0xD800⟩], 0⟩).message :=
    hmessage.subset List.mem_cons_self
  exact absurd hmem (by decide)

end LintMend.Environment
