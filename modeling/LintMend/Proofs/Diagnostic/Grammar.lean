/-
LintMend.Proofs.Diagnostic.Grammar — which lines report a finding.

A line reports a finding if it can be cut, from some occurrence of the marker on, into the parts of
a `Reading`. There may be many such cuts. The search finds one whenever there is one, none of the
others starts further to the left, and its parts are what the diagnostic is made of.

  `Reading`, `Reading.Valid`, `Reads`        — the grammar
  `readTail?_eq_some_iff`, `readNumber?_eq_some_iff` — what has one reading only
  `Searched`                                 — what a search from left to right comes to
  `growName?_searched`, `readFields?_searched` — the two searches
  `parseLine_reads`                          — lines
-/
import LintMend.Diagnostic.Extractor
import LintMend.Proofs.Text.Trimming

namespace LintMend.Extractor

variable {extension name path rest t : Text} {f : Fields}

/-! ## 1. The grammar -/

/-- A line or column number as written: one of the digits 1 to 9, then digits of any script. -/
def IsNumber (t : Text) : Prop :=
  ∃ first rest, t = first :: rest ∧ first.isLeadingDigit = true ∧ ∀ c ∈ rest, c.isDigit = true

/-- A path without the extension: its first and its last code point are no blanks, and it holds no
line feed. -/
def IsName (t : Text) : Prop :=
  (∃ c, t.head? = some c ∧ c.isSpace = false) ∧ (∃ c, t.getLast? = some c ∧ c.isSpace = false) ∧
    ('\n' : CodePoint) ∉ t

/-- The parts of a line after the marker. -/
structure Reading where
  blanks : Text
  name : Text
  line : Text
  column : Text
  text : Text
  rule : Text
  rest : Text

namespace Reading

/-- The parts one after the other. -/
def written (extension : Text) (r : Reading) : Text :=
  r.blanks ++ r.name ++ extension ++ ":" ++ r.line ++ ":" ++ r.column ++ ":" ++ r.text ++ "[" ++
    r.rule ++ "]" ++ r.rest

/-- Each part is one of its kind. -/
structure Valid (r : Reading) : Prop where
  blanks_ne_nil : r.blanks ≠ []
  blanks : ∀ c ∈ r.blanks, c.isSpace = true
  name : IsName r.name
  line : IsNumber r.line
  column : IsNumber r.column
  text : ('\n' : CodePoint) ∉ r.text.strip
  rule_ne_nil : r.rule ≠ []
  rule : ∀ c ∈ r.rule, isRuleChar c = true
  rest : ∀ c ∈ r.rest, c.isSpace = true

/-- The fields that are taken from the parts. -/
def fields (extension : Text) (r : Reading) : Fields :=
  ⟨r.name ++ extension, r.line, r.column, r.text.strip, r.rule⟩

end Reading

/-- A line is read at the marker that stands after the given beginning. -/
def Reads (e : Extractor) (s before : Text) (r : Reading) : Prop :=
  r.Valid ∧ s = before ++ e.marker ++ r.written e.extension

/-! ## 2. What has one reading only -/

theorem has_eq_false_iff {c : CodePoint} : t.has c = false ↔ c ∉ t := by
  simp [Text.has]

/-- What is read at the end of a line stands there. -/
theorem readTail?_sound {message rule : Text} (h : readTail? t = some (message, rule)) :
    ∃ text rest, t = text ++ "[" ++ rule ++ "]" ++ rest ∧ message = text.strip ∧
      ('\n' : CodePoint) ∉ text.strip ∧ rule ≠ [] ∧ (∀ c ∈ rule, isRuleChar c = true) ∧
      ∀ c ∈ rest, c.isSpace = true := by
  obtain ⟨rest, hrest, hblank⟩ := Text.trimEnd_cut CodePoint.isSpace t
  unfold readTail? at h
  split at h
  · exact absurd h (by simp)
  next close before hreverse =>
  split at h
  case isFalse => exact absurd h (by simp)
  next hclose =>
  simp only at h
  split at h
  · exact absurd h (by simp)
  next bracket front hfront =>
  split at h
  case isFalse => exact absurd h (by simp)
  next hcond =>
  simp only [Bool.and_eq_true, decide_eq_true_eq, Bool.not_eq_true', has_eq_false_iff,
    List.isEmpty_eq_false_iff] at hcond
  obtain ⟨⟨rfl, hrule⟩, hfeed⟩ := hcond
  obtain ⟨rfl, rfl⟩ := Prod.mk.inj (Option.some.inj h)
  subst hclose
  refine ⟨front.reverse, rest, ?_, rfl, hfeed, hrule, ?_, hblank⟩
  · have hsplit := List.takeWhile_append_dropWhile (p := isRuleChar) (l := before)
    rw [hfront] at hsplit
    have hstripped : Text.stripEnd t = ((']' : CodePoint) :: before).reverse := by
      rw [← hreverse, List.reverse_reverse]
    rw [← hsplit] at hstripped
    rw [hrest]
    change Text.stripEnd t ++ rest = _
    rw [hstripped]
    simp [Text.ofString]
  · intro c hc
    exact List.mem_takeWhile_imp (List.mem_reverse.mp hc)

/-- What stands at the end of a line is read. -/
theorem readTail?_written {text rule : Text} (hfeed : ('\n' : CodePoint) ∉ text.strip)
    (hrule : rule ≠ []) (hchars : ∀ c ∈ rule, isRuleChar c = true)
    (hblank : ∀ c ∈ rest, c.isSpace = true) :
    readTail? (text ++ "[" ++ rule ++ "]" ++ rest) = some (text.strip, rule) := by
  have hend : Text.stripEnd (text ++ "[" ++ rule ++ "]" ++ rest) =
      text ++ "[" ++ rule ++ "]" := by
    rw [Text.stripEnd, Text.trimEnd_append_of_all hblank]
    exact Text.trimEnd_concat (by decide)
  -- the line is read backwards, so that the rule is a run of its code points from the start
  have hreverse : (text ++ "[" ++ rule ++ "]" : Text).reverse =
      (']' : CodePoint) :: (rule.reverse ++ (('[' : CodePoint) :: text.reverse)) := by
    simp [Text.ofString]
  have hchars' : ∀ c ∈ rule.reverse, isRuleChar c = true := by simpa using hchars
  have hbracket : isRuleChar '[' = false := by decide
  unfold readTail?
  rw [hend, hreverse]
  simp only [if_true, List.takeWhile_append_of_pos hchars', List.dropWhile_append_of_pos hchars',
    List.takeWhile_cons, List.dropWhile_cons, hbracket]
  simp [has_eq_false_iff, hfeed, hrule]

/-- **The end of a line has one reading**: the last bracket holds the rule. -/
theorem readTail?_eq_some_iff {message rule : Text} : readTail? t = some (message, rule) ↔
    ∃ text rest, t = text ++ "[" ++ rule ++ "]" ++ rest ∧ message = text.strip ∧
      ('\n' : CodePoint) ∉ text.strip ∧ rule ≠ [] ∧ (∀ c ∈ rule, isRuleChar c = true) ∧
      ∀ c ∈ rest, c.isSpace = true := by
  refine ⟨readTail?_sound, ?_⟩
  rintro ⟨text, rest, rfl, rfl, hfeed, hrule, hchars, hblank⟩
  exact readTail?_written hfeed hrule hchars hblank

/-- **A number has one reading**: it goes up to the first code point that is no digit. -/
theorem readNumber?_eq_some_iff {number after : Text} : readNumber? t = some (number, after) ↔
    IsNumber number ∧ t = number ++ ":" ++ after := by
  have hcolon : (':' : CodePoint).isDigit = false := by decide
  constructor
  · intro h
    unfold readNumber? at h
    split at h
    · exact absurd h (by simp)
    next first rest =>
    split at h
    case isFalse => exact absurd h (by simp)
    next hfirst =>
    split at h
    · exact absurd h (by simp)
    next c left hleft =>
    split at h
    case isFalse => exact absurd h (by simp)
    next hc =>
    obtain ⟨rfl, rfl⟩ := Prod.mk.inj (Option.some.inj h)
    subst hc
    refine ⟨⟨first, _, rfl, hfirst, fun c => List.mem_takeWhile_imp⟩, ?_⟩
    have hsplit := List.takeWhile_append_dropWhile (p := CodePoint.isDigit) (l := rest)
    rw [hleft] at hsplit
    simp [Text.ofString, hsplit]
  · rintro ⟨⟨first, rest, rfl, hfirst, hrest⟩, rfl⟩
    have hshape : first :: rest ++ ":" ++ after =
        first :: (rest ++ ((':' : CodePoint) :: after)) := by
      simp [Text.ofString]
    rw [hshape]
    simp only [readNumber?, hfirst, if_true, List.dropWhile_append_of_pos hrest,
      List.takeWhile_append_of_pos hrest, List.dropWhile_cons, List.takeWhile_cons, hcolon]
    simp

/-- What stands after the colon that ends a path. -/
theorem readPlace?_eq_some_iff : readPlace? path t = some f ↔ ∃ text rest,
    t = f.line ++ ":" ++ f.column ++ ":" ++ text ++ "[" ++ f.rule ++ "]" ++ rest ∧
      f.path = path ∧ IsNumber f.line ∧ IsNumber f.column ∧ f.message = text.strip ∧
      ('\n' : CodePoint) ∉ text.strip ∧ f.rule ≠ [] ∧ (∀ c ∈ f.rule, isRuleChar c = true) ∧
      ∀ c ∈ rest, c.isSpace = true := by
  constructor
  · intro h
    unfold readPlace? at h
    split at h
    · exact absurd h (by simp)
    next line afterLine hline =>
    split at h
    · exact absurd h (by simp)
    next column afterColumn hcolumn =>
    obtain ⟨⟨message, rule⟩, htail, rfl⟩ := Option.map_eq_some_iff.mp h
    obtain ⟨isLine, rfl⟩ := readNumber?_eq_some_iff.mp hline
    obtain ⟨isColumn, rfl⟩ := readNumber?_eq_some_iff.mp hcolumn
    obtain ⟨text, rest, rfl, hmessage, hparts⟩ := readTail?_eq_some_iff.mp htail
    exact ⟨text, rest, by simp, rfl, isLine, isColumn, hmessage, hparts⟩
  · rintro ⟨text, rest, rfl, rfl, hline, hcolumn, hmessage, hparts⟩
    have hfirst : readNumber? (f.line ++ ":" ++ f.column ++ ":" ++ text ++ "[" ++ f.rule ++ "]" ++
        rest) = some (f.line, f.column ++ ":" ++ (text ++ "[" ++ f.rule ++ "]" ++ rest)) :=
      readNumber?_eq_some_iff.mpr ⟨hline, by simp⟩
    have hsecond : readNumber? (f.column ++ ":" ++ (text ++ "[" ++ f.rule ++ "]" ++ rest)) =
        some (f.column, text ++ "[" ++ f.rule ++ "]" ++ rest) :=
      readNumber?_eq_some_iff.mpr ⟨hcolumn, rfl⟩
    have htail : readTail? (text ++ "[" ++ f.rule ++ "]" ++ rest) = some (f.message, f.rule) :=
      readTail?_eq_some_iff.mpr ⟨text, rest, rfl, hmessage, hparts⟩
    simp only [readPlace?, hfirst, hsecond, htail, Option.map_some]

/-- What stands after the name of a path. -/
theorem readAfterName?_eq_some_iff : readAfterName? extension name rest = some f ↔ ∃ place,
    rest = extension ++ ":" ++ place ∧ readPlace? (name ++ extension) place = some f := by
  constructor
  · intro h
    unfold readAfterName? at h
    split at h
    · next c place hdrop =>
      split at h
      · next hc =>
        subst hc
        refine ⟨place, ?_, h⟩
        rw [Text.dropStart?_eq_some_iff.mp hdrop]
        simp [Text.ofString]
      · exact absurd h (by simp)
    · exact absurd h (by simp)
  · rintro ⟨place, rfl, hplace⟩
    have hdrop : Text.dropStart? extension (extension ++ ":" ++ place) =
        some ((':' : CodePoint) :: place) :=
      Text.dropStart?_eq_some_iff.mpr (by simp [Text.ofString])
    simp only [readAfterName?, hdrop, if_true, hplace]

/-! ## 3. Searches from left to right -/

/-- The first cut of a text into a left part of some kind and a right part that can be read. -/
structure FirstCut (kind : Text → Prop) (read : Text → Text → Option Fields) (t : Text)
    (f : Fields) (left right : Text) : Prop where
  cut : t = left ++ right
  isKind : kind left
  isRead : read left right = some f
  least : ∀ left' right', t = left' ++ right' → kind left' → (read left' right').isSome = true →
    left.length ≤ left'.length

/-- No cut of a text has a left part of the kind and a right part that can be read. -/
def NoCut (kind : Text → Prop) (read : Text → Text → Option Fields) (t : Text) : Prop :=
  ∀ left right, t = left ++ right → kind left → read left right = none

/-- What a search from left to right can come to. -/
def Searched (kind : Text → Prop) (read : Text → Text → Option Fields) (t : Text) :
    Option Fields → Prop
  | some f => ∃ left right, FirstCut kind read t f left right
  | none => NoCut kind read t

/-- The search goes on after a code point if no cut can be read but those after it. -/
theorem Searched.cons {kind kind' : Text → Prop} {read read' : Text → Text → Option Fields}
    {c : CodePoint} {result : Option Fields} (hkind : ∀ left, kind' left → kind (c :: left))
    (hread : ∀ left right, kind' left → read (c :: left) right = read' left right)
    (hcuts : ∀ left right, c :: t = left ++ right → kind left →
      read left right = none ∨ ∃ left', left = c :: left' ∧ kind' left')
    (h : Searched kind' read' t result) : Searched kind read (c :: t) result := by
  cases result with
  | some f =>
    obtain ⟨left, right, hcut, hleft, hsome, hleast⟩ := h
    refine ⟨c :: left, right, by rw [hcut, List.cons_append], hkind left hleft,
      (hread left right hleft).trans hsome, fun left' right' hcut' hleft' hsome' => ?_⟩
    rcases hcuts left' right' hcut' hleft' with hnone | ⟨left'', rfl, hleft''⟩
    · simp [hnone] at hsome'
    · rw [hread _ _ hleft''] at hsome'
      exact Nat.succ_le_succ (hleast left'' right' (List.cons.inj hcut').2 hleft'' hsome')
  | none =>
    intro left right hcut hleft
    rcases hcuts left right hcut hleft with hnone | ⟨left', rfl, hleft'⟩
    · exact hnone
    · exact (hread _ _ hleft').trans (h left' right (List.cons.inj hcut).2 hleft')

/-! ## 4. Paths -/

/-- What can follow the first code point of a name. -/
def Ends (t : Text) : Prop :=
  (∃ c, t.getLast? = some c ∧ c.isSpace = false) ∧ ('\n' : CodePoint) ∉ t

theorem Ends.ne_nil (h : Ends t) : t ≠ [] := by
  rintro rfl
  obtain ⟨⟨c, hc, -⟩, -⟩ := h
  exact absurd hc (by simp)

theorem ends_singleton_iff {c : CodePoint} : Ends [c] ↔ c.isSpace = false := by
  constructor
  · rintro ⟨⟨d, hd, hspace⟩, -⟩
    obtain rfl : c = d := by simpa using hd
    exact hspace
  · intro hspace
    refine ⟨⟨c, rfl, hspace⟩, ?_⟩
    rintro hfeed
    obtain rfl := List.mem_singleton.mp hfeed
    exact absurd hspace (by decide)

theorem ends_cons_iff {c : CodePoint} (ht : t ≠ []) : Ends (c :: t) ↔ c ≠ '\n' ∧ Ends t := by
  obtain ⟨d, t, rfl⟩ := List.exists_cons_of_ne_nil ht
  simp only [Ends, List.getLast?_cons_cons, List.mem_cons, not_or]
  tauto

/-- A name starts visibly. -/
theorem IsName.exists_cons (h : IsName t) : ∃ c more, t = c :: more ∧ c.isSpace = false := by
  obtain ⟨⟨c, hc, hspace⟩, -⟩ := h
  cases t with
  | nil => exact absurd hc (by simp)
  | cons a more =>
    obtain rfl : a = c := by simpa using hc
    exact ⟨a, more, rfl, hspace⟩

theorem isName_cons_iff {c : CodePoint} :
    IsName (c :: t) ↔ c.isSpace = false ∧ (t = [] ∨ Ends t) := by
  cases t with
  | nil =>
    simp only [IsName, List.head?_cons, List.getLast?_singleton, Option.some.injEq,
      exists_eq_left', List.mem_singleton, true_or, and_true, and_self_left]
    refine ⟨And.left, fun hspace => ⟨hspace, ?_⟩⟩
    rintro rfl
    exact absurd hspace (by decide)
  | cons d t =>
    simp only [IsName, Ends, List.head?_cons, List.getLast?_cons_cons, Option.some.injEq,
      exists_eq_left', List.mem_cons (a := '\n') (b := c), not_or, reduceCtorEq, false_or]
    refine and_congr_right fun hspace => and_congr_right fun _ => and_iff_right ?_
    rintro rfl
    exact absurd hspace (by decide)

theorem growName?_cons (extension name : Text) (c : CodePoint) (rest : Text) :
    growName? extension name (c :: rest) =
      match (if c.isSpace then none else readAfterName? extension (name ++ [c]) rest) with
      | some fields => some fields
      | none => if c = '\n' then none else growName? extension (name ++ [c]) rest :=
  -- A bare `rfl` would be tried as a rule for `dsimp`, too, and that takes long here.
  (rfl)

theorem growName?_of_some {c : CodePoint} (hspace : c.isSpace = false)
    (h : readAfterName? extension (name ++ [c]) rest = some f) :
    growName? extension name (c :: rest) = some f := by
  simp only [growName?_cons, hspace, h, Bool.false_eq_true, if_false]

theorem growName?_of_none {c : CodePoint}
    (h : c.isSpace = false → readAfterName? extension (name ++ [c]) rest = none) :
    growName? extension name (c :: rest) =
      if c = '\n' then none else growName? extension (name ++ [c]) rest := by
  rw [growName?_cons]
  cases hspace : c.isSpace with
  | true => simp only [if_true]
  | false => simp only [h hspace, Bool.false_eq_true, if_false]

/-- A name goes on for one code point, or for that and what can follow it. -/
theorem Ends.cut {c : CodePoint} {left right : Text} (hcut : c :: t = left ++ right)
    (h : Ends left) : left = [c] ∧ right = t ∧ c.isSpace = false ∨
      ∃ left', left = c :: left' ∧ c ≠ '\n' ∧ Ends left' := by
  obtain ⟨a, left', rfl⟩ := List.exists_cons_of_ne_nil h.ne_nil
  obtain ⟨rfl, hrest⟩ := List.cons.inj (hcut.trans (List.cons_append ..))
  by_cases hnil : left' = []
  · subst hnil
    exact .inl ⟨rfl, hrest.symm, ends_singleton_iff.mp h⟩
  · exact .inr ⟨left', rfl, (ends_cons_iff hnil).mp h⟩

/-- **Names are tried from short to long.** -/
theorem growName?_searched (extension name rest : Text) :
    Searched Ends (fun left right => readAfterName? extension (name ++ left) right) rest
      (growName? extension name rest) := by
  induction rest generalizing name with
  | nil =>
    change NoCut _ _ []
    intro left right hcut hleft
    exact absurd (List.append_eq_nil_iff.mp hcut.symm).1 hleft.ne_nil
  | cons c rest ih =>
    by_cases hhere : c.isSpace = false ∧
        (readAfterName? extension (name ++ [c]) rest).isSome = true
    · obtain ⟨hspace, hsome⟩ := hhere
      obtain ⟨f, hf⟩ := Option.isSome_iff_exists.mp hsome
      rw [growName?_of_some hspace hf]
      refine ⟨[c], rest, rfl, ends_singleton_iff.mpr hspace, hf, ?_⟩
      intro left right hcut hleft _
      exact List.length_pos_iff.mpr hleft.ne_nil
    · have hnone : c.isSpace = false → readAfterName? extension (name ++ [c]) rest = none := by
        intro hspace
        simpa [hspace] using hhere
      rw [growName?_of_none hnone]
      by_cases hfeed : c = '\n'
      · rw [if_pos hfeed]
        intro left right hcut hleft
        rcases hleft.cut hcut with ⟨rfl, rfl, hspace⟩ | ⟨-, -, hne, -⟩
        · exact hnone hspace
        · exact absurd hfeed hne
      · rw [if_neg hfeed]
        refine (ih (name ++ [c])).cons ?_ ?_ ?_
        · intro left hleft
          exact (ends_cons_iff hleft.ne_nil).mpr ⟨hfeed, hleft⟩
        · intro left right _
          rw [List.append_assoc, List.singleton_append]
        · intro left right hcut hleft
          rcases hleft.cut hcut with ⟨rfl, rfl, hspace⟩ | ⟨left', rfl, -, hends⟩
          · exact .inl (hnone hspace)
          · exact .inr ⟨left', rfl, hends⟩

/-- A path that is found is a name and the extension, and no other name that could be read is
shorter but one of a single code point. -/
theorem readPath?_sound (h : readPath? extension t = some f) : ∃ name rest,
    t = name ++ rest ∧ IsName name ∧ readAfterName? extension name rest = some f ∧
    ∀ name' rest', t = name' ++ rest' → IsName name' →
      (readAfterName? extension name' rest').isSome = true →
      name.length ≤ name'.length ∨ name'.length = 1 := by
  cases t with
  | nil => exact absurd h (by simp [readPath?])
  | cons c rest =>
    have hsearch := growName?_searched extension [c] rest
    unfold readPath? at h
    dsimp only at h
    cases hspace : c.isSpace with
    | true => simp [hspace] at h
    | false =>
      rw [hspace] at h
      cases hgrow : growName? extension [c] rest with
      | some g =>
        rw [hgrow] at h hsearch
        obtain rfl : g = f := by simpa using h
        obtain ⟨left, right, rfl, hends, hread, hleast⟩ := hsearch
        refine ⟨c :: left, right, rfl, isName_cons_iff.mpr ⟨hspace, .inr hends⟩, hread, ?_⟩
        intro name' rest' hcut hname' hsome
        obtain ⟨a, more, rfl, -⟩ := hname'.exists_cons
        obtain ⟨rfl, hmore'⟩ := List.cons.inj (hcut.trans (List.cons_append ..))
        rcases (isName_cons_iff.mp hname').2 with rfl | hmore
        · exact .inr rfl
        · exact .inl (Nat.succ_le_succ (hleast more rest' hmore' hmore hsome))
      | none =>
        rw [hgrow] at h
        refine ⟨[c], rest, rfl, isName_cons_iff.mpr ⟨hspace, .inl rfl⟩, by simpa using h, ?_⟩
        rintro name' rest' - hname' -
        obtain ⟨a, more, rfl, -⟩ := hname'.exists_cons
        exact .inl (by simp)

/-- A path is found where there is one. -/
theorem readPath?_complete (hname : IsName name)
    (h : (readAfterName? extension name rest).isSome = true) :
    (readPath? extension (name ++ rest)).isSome = true := by
  obtain ⟨c, more, rfl, hspace⟩ := hname.exists_cons
  have hsearch := growName?_searched extension [c] (more ++ rest)
  rw [List.cons_append]
  unfold readPath?
  dsimp only
  rw [hspace]
  cases hgrow : growName? extension [c] (more ++ rest) with
  | some g => simp
  | none =>
    rw [hgrow] at hsearch
    rcases (isName_cons_iff.mp hname).2 with rfl | hends
    · simpa using h
    · have hnone : readAfterName? extension (c :: more) rest = none :=
        hsearch more rest rfl hends
      rw [hnone] at h
      exact absurd h (by simp)

/-! ## 5. Markers -/

namespace Reading

/-- The parts after the path. -/
def place (r : Reading) : Text :=
  r.line ++ ":" ++ r.column ++ ":" ++ r.text ++ "[" ++ r.rule ++ "]" ++ r.rest

theorem written_eq (extension : Text) (r : Reading) :
    r.written extension = r.blanks ++ (r.name ++ (extension ++ ":" ++ r.place)) := by
  simp [written, place]

variable {r : Reading}

theorem Valid.readAfterName? (hr : r.Valid) (extension : Text) :
    readAfterName? extension r.name (extension ++ ":" ++ r.place) = some (r.fields extension) :=
  readAfterName?_eq_some_iff.mpr ⟨r.place, rfl, readPlace?_eq_some_iff.mpr
    ⟨r.text, r.rest, rfl, rfl, hr.line, hr.column, rfl, hr.text, hr.rule_ne_nil, hr.rule, hr.rest⟩⟩

/-- After the blanks the path is looked for where it starts. -/
theorem Valid.readAfterMarker? (hr : r.Valid) (extension : Text) :
    readAfterMarker? extension (r.written extension) =
      readPath? extension (r.name ++ (extension ++ ":" ++ r.place)) := by
  obtain ⟨c, blanks, hblanks⟩ := List.exists_cons_of_ne_nil hr.blanks_ne_nil
  have hspaces := hr.blanks
  rw [hblanks] at hspaces
  obtain ⟨hc, hrest⟩ := List.forall_mem_cons.mp hspaces
  obtain ⟨d, more, hmore, hname⟩ := hr.name.exists_cons
  rw [written_eq, hblanks, List.cons_append]
  unfold Extractor.readAfterMarker?
  dsimp only
  rw [if_pos hc, Text.stripStart_append_of_all hrest, hmore, List.cons_append,
    Text.stripStart_cons hname]

end Reading

/-- What is read after a marker is a reading of it. -/
theorem readAfterMarker?_sound (h : readAfterMarker? extension t = some f) :
    ∃ r : Reading, r.Valid ∧ t = r.written extension ∧ f = r.fields extension := by
  cases t with
  | nil => exact absurd h (by simp [readAfterMarker?])
  | cons c t =>
    unfold readAfterMarker? at h
    dsimp only at h
    split at h
    case isFalse => exact absurd h (by simp)
    next hc =>
    obtain ⟨blanks, ht, hblanks⟩ := Text.stripStart_cut t
    obtain ⟨name, after, hname, isName, hafter, -⟩ := readPath?_sound h
    obtain ⟨place, rfl, hplace⟩ := readAfterName?_eq_some_iff.mp hafter
    obtain ⟨text, rest, rfl, hpath, hline, hcolumn, hmessage, hfeed, hrule, hchars, hrest⟩ :=
      readPlace?_eq_some_iff.mp hplace
    refine ⟨⟨c :: blanks, name, f.line, f.column, text, f.rule, rest⟩,
      ⟨by simp, List.forall_mem_cons.mpr ⟨hc, hblanks⟩, isName, hline, hcolumn, hfeed, hrule,
        hchars, hrest⟩, ?_, ?_⟩
    · rw [ht, hname]
      simp [Reading.written]
    · simp only [Reading.fields, ← hpath, ← hmessage]

theorem Reading.Valid.isSome {r : Reading} (hr : r.Valid) (extension : Text) :
    (Extractor.readAfterMarker? extension (r.written extension)).isSome = true := by
  rw [hr.readAfterMarker? extension]
  exact readPath?_complete hr.name (by rw [hr.readAfterName? extension]; rfl)

variable {e : Extractor} {before : Text} {r : Reading}

/-- The reading at an occurrence of the marker. -/
def readHere? (e : Extractor) (t : Text) : Option Fields :=
  (Text.dropStart? e.marker t).bind (readAfterMarker? e.extension)

theorem readFields?_of_some (h : e.readHere? t = some f) : e.readFields? t = some f := by
  rw [readHere?] at h
  unfold readFields?
  simp only [h]

theorem readFields?_nil (h : e.readHere? [] = none) : e.readFields? [] = none := by
  rw [readHere?] at h
  unfold readFields?
  simp only [h]

theorem readFields?_cons {c : CodePoint} (h : e.readHere? (c :: t) = none) :
    e.readFields? (c :: t) = e.readFields? t := by
  rw [readHere?] at h
  conv => lhs; unfold readFields?
  simp only [h]

/-- **Markers are tried from left to right.** -/
theorem readFields?_searched (e : Extractor) (t : Text) :
    Searched (fun _ => True) (fun _ right => e.readHere? right) t (e.readFields? t) := by
  have hfirst : ∀ {t f}, e.readHere? t = some f →
      Searched (fun _ => True) (fun _ right => e.readHere? right) t (e.readFields? t) := by
    intro t f hhere
    rw [readFields?_of_some hhere]
    exact ⟨[], t, rfl, trivial, hhere, fun _ _ _ _ _ => Nat.zero_le _⟩
  induction t with
  | nil =>
    cases hhere : e.readHere? [] with
    | some f => exact hfirst hhere
    | none =>
      rw [readFields?_nil hhere]
      intro left right hcut _
      obtain ⟨rfl, rfl⟩ := List.append_eq_nil_iff.mp hcut.symm
      exact hhere
  | cons c t ih =>
    cases hhere : e.readHere? (c :: t) with
    | some f => exact hfirst hhere
    | none =>
      rw [readFields?_cons hhere]
      refine ih.cons (fun _ _ => trivial) (fun _ _ _ => rfl) fun left right hcut _ => ?_
      cases left with
      | nil =>
        rw [List.nil_append] at hcut
        exact .inl (hcut ▸ hhere)
      | cons a left =>
        obtain ⟨rfl, -⟩ := List.cons.inj (hcut.trans (List.cons_append ..))
        exact .inr ⟨left, rfl, trivial⟩

theorem readHere?_eq_some (h : e.readHere? t = some f) : ∃ r : Reading, r.Valid ∧
    t = e.marker ++ r.written e.extension ∧ f = r.fields e.extension := by
  obtain ⟨after, hafter, hread⟩ := Option.bind_eq_some_iff.mp h
  obtain ⟨r, hr, rfl, hfields⟩ := readAfterMarker?_sound hread
  exact ⟨r, hr, Text.dropStart?_eq_some_iff.mp hafter, hfields⟩

theorem readHere?_written (e : Extractor) (r : Reading) :
    e.readHere? (e.marker ++ r.written e.extension) =
      readAfterMarker? e.extension (r.written e.extension) := by
  have hdrop : Text.dropStart? e.marker (e.marker ++ r.written e.extension) =
      some (r.written e.extension) := Text.dropStart?_eq_some_iff.mpr rfl
  rw [readHere?, hdrop, Option.bind_some]

theorem Reads.isSome (h : e.Reads t before r) :
    (e.readHere? (e.marker ++ r.written e.extension)).isSome = true := by
  rw [readHere?_written]
  exact h.1.isSome e.extension

/-- The fields of a line come from a reading, and none starts further to the left; they are what is
read at the marker where it starts. -/
theorem readFields?_reads (h : e.readFields? t = some f) : ∃ before r, e.Reads t before r ∧
    f = r.fields e.extension ∧
    (∀ before' r', e.Reads t before' r' → before.length ≤ before'.length) ∧
    readAfterMarker? e.extension (r.written e.extension) = some f := by
  have hsearch := readFields?_searched e t
  rw [h] at hsearch
  obtain ⟨before, right, hcut, -, hread, hleast⟩ := hsearch
  obtain ⟨r, hr, rfl, hfields⟩ := readHere?_eq_some hread
  refine ⟨before, r, ⟨hr, by rw [hcut, List.append_assoc]⟩, hfields, fun before' r' hreads => ?_,
    (readHere?_written e r).symm.trans hread⟩
  refine hleast before' (e.marker ++ r'.written e.extension) ?_ trivial hreads.isSome
  rw [hreads.2, List.append_assoc]

/-- A line without fields has no reading. -/
theorem not_reads (h : e.readFields? t = none) : ¬ e.Reads t before r := by
  intro hreads
  have hsearch := readFields?_searched e t
  rw [h] at hsearch
  have hnone := hsearch before (e.marker ++ r.written e.extension)
    (by rw [hreads.2, List.append_assoc]) trivial
  have hsome := hreads.isSome
  simp only [hnone] at hsome
  exact absurd hsome (by simp)

/-! ## 6. Lines -/

/-- No run of digits in a text has more digits than are read. -/
def HasShortNumbers (t : Text) : Prop :=
  ∀ run, run <:+: t → (∀ c ∈ run, c.isDigit = true) → run.length ≤ Json.digitLimit

theorem isDigit_of_isLeadingDigit {c : CodePoint} (h : c.isLeadingDigit = true) :
    c.isDigit = true ∧ 1 ≤ c.digitValue?.getD 0 := by
  simp only [CodePoint.isLeadingDigit, Bool.and_eq_true, decide_eq_true_eq] at h
  have hvalue : c.digitValue? = some (c.val - 0x30) := by
    rw [CodePoint.digitValue?, if_pos (by omega), if_pos (by omega)]
  rw [CodePoint.isDigit, hvalue]
  exact ⟨rfl, by simp only [Option.getD_some]; omega⟩

theorem IsNumber.digits (h : IsNumber t) : ∀ c ∈ t, c.isDigit = true := by
  obtain ⟨first, rest, rfl, hfirst, hrest⟩ := h
  exact List.forall_mem_cons.mpr ⟨(isDigit_of_isLeadingDigit hfirst).1, hrest⟩

/-- Lines and columns are counted from one. -/
theorem IsNumber.one_le (h : IsNumber t) : 1 ≤ t.digitsValue := by
  obtain ⟨first, rest, rfl, hfirst, -⟩ := h
  have hgrows : ∀ (rest : Text) (n : Nat), 1 ≤ n →
      1 ≤ rest.foldl (fun n c => 10 * n + c.digitValue?.getD 0) n := by
    intro rest
    induction rest with
    | nil => exact fun n hn => hn
    | cons c rest ih => exact fun n hn => ih (10 * n + c.digitValue?.getD 0) (by omega)
  exact hgrows rest _ (by simpa using (isDigit_of_isLeadingDigit hfirst).2)

/-- The diagnostic of a reading: none of the checks on its parts fails. -/
theorem Reading.Valid.diagnostic (hr : r.Valid) (hline : r.line.length ≤ Json.digitLimit)
    (hcolumn : r.column.length ≤ Json.digitLimit) (extension raw : Text) :
    ∃ d, (r.fields extension).diagnostic raw = .ok d ∧ d.file = r.name ++ extension ∧
      d.line = r.line.digitsValue ∧ d.column = r.column.digitsValue ∧
      d.message = r.text.strip ∧ d.rule = r.rule ∧ d.rawLine = raw := by
  have hl : readDigits (r.fields extension).line = .ok r.line.digitsValue :=
    if_neg (Nat.not_lt.mpr hline)
  have hc : readDigits (r.fields extension).column = .ok r.column.digitsValue :=
    if_neg (Nat.not_lt.mpr hcolumn)
  have hl' : ¬ (r.line.digitsValue : Int) < 1 := by
    have := hr.line.one_le
    omega
  have hc' : ¬ (r.column.digitsValue : Int) < 1 := by
    have := hr.column.one_le
    omega
  have hrule : (r.fields extension).rule ≠ [] := hr.rule_ne_nil
  refine ⟨⟨r.name ++ extension, r.line.digitsValue, r.column.digitsValue, r.text.strip, r.rule,
    raw, hr.line.one_le, hr.column.one_le, hr.rule_ne_nil⟩, ?_, rfl, rfl, rfl, rfl, rfl, rfl⟩
  simp only [Fields.diagnostic, hl, hc, Diagnostic.check, dif_neg hl', dif_neg hc', dif_neg hrule]
  simp [Reading.fields, Text.strip_strip]

theorem Reads.marks {line : Text} (h : e.Reads (Text.trimEnd isLineEnd line) before r) :
    e.marks line = true := by
  have hmarker : e.marker <:+: Text.trimEnd isLineEnd line :=
    ⟨before, r.written e.extension, h.2.symm⟩
  exact Text.contains_iff.mpr (hmarker.trans (Text.trimEnd_prefix isLineEnd line).isInfix)

/-- Both numbers of a reading stand in the line. -/
theorem Reads.numbers {line : Text} (h : e.Reads (Text.trimEnd isLineEnd line) before r) :
    r.line <:+: line ∧ r.column <:+: line := by
  have hpart : ∀ part, part <:+: Text.trimEnd isLineEnd line → part <:+: line := fun part h =>
    h.trans (Text.trimEnd_prefix isLineEnd line).isInfix
  constructor
  · refine hpart _ ⟨before ++ e.marker ++ r.blanks ++ r.name ++ e.extension ++ ":",
      ":" ++ r.column ++ ":" ++ r.text ++ "[" ++ r.rule ++ "]" ++ r.rest, ?_⟩
    rw [h.2]
    simp [Reading.written]
  · refine hpart _ ⟨before ++ e.marker ++ r.blanks ++ r.name ++ e.extension ++ ":" ++
      r.line ++ ":", ":" ++ r.text ++ "[" ++ r.rule ++ "]" ++ r.rest, ?_⟩
    rw [h.2]
    simp [Reading.written]

/-- Both numbers of a line without too many digits are read. -/
theorem Reads.short {line : Text} (h : e.Reads (Text.trimEnd isLineEnd line) before r)
    (hshort : HasShortNumbers line) :
    r.line.length ≤ Json.digitLimit ∧ r.column.length ≤ Json.digitLimit :=
  ⟨hshort _ h.numbers.1 h.1.line.digits, hshort _ h.numbers.2 h.1.column.digits⟩

/-- **A line reports a finding if and only if it can be read**, and the finding is made of the parts
of a reading that starts as far to the left as any. No number is refused if none is too long, and
no check on the parts fails. -/
theorem parseLine_reads (e : Extractor) {line : Text} (hshort : HasShortNumbers line) :
    ∃ result, e.parseLine line = .ok result ∧
      (result.isSome = true ↔ ∃ before r, e.Reads (Text.trimEnd isLineEnd line) before r) ∧
      ∀ d, result = some d → ∃ before r, e.Reads (Text.trimEnd isLineEnd line) before r ∧
        (∀ before' r', e.Reads (Text.trimEnd isLineEnd line) before' r' →
          before.length ≤ before'.length) ∧
        d.file = r.name ++ e.extension ∧ d.line = r.line.digitsValue ∧
        d.column = r.column.digitsValue ∧ 1 ≤ d.line ∧ 1 ≤ d.column ∧
        d.message = r.text.strip ∧ d.rule = r.rule ∧ d.rawLine = line.strip := by
  cases hmarks : e.marks line with
  | false =>
    have hnone : ∀ before r, ¬ e.Reads (Text.trimEnd isLineEnd line) before r :=
      fun before r hreads => by simp [hreads.marks] at hmarks
    exact ⟨none, by simp [parseLine, hmarks], by simp [hnone], by simp⟩
  | true =>
    cases hfields : e.readFields? (Text.trimEnd isLineEnd line) with
    | none =>
      have hnone : ∀ before r, ¬ e.Reads (Text.trimEnd isLineEnd line) before r :=
        fun before r => not_reads hfields
      exact ⟨none, by simp [parseLine, hmarks, hfields], by simp [hnone], by simp⟩
    | some f =>
      obtain ⟨before, r, hreads, rfl, hleast, -⟩ := readFields?_reads hfields
      obtain ⟨hline, hcolumn⟩ := hreads.short hshort
      obtain ⟨d, hd, hfile, hdline, hdcolumn, hmessage, hrule, hraw⟩ :=
        hreads.1.diagnostic hline hcolumn e.extension line.strip
      refine ⟨some d, by simp [parseLine, hmarks, hfields, hd], ?_, ?_⟩
      · simp only [Option.isSome_some, true_iff]
        exact ⟨before, r, hreads⟩
      · rintro d' hd'
        obtain rfl := Option.some.inj hd'
        exact ⟨before, r, hreads, hleast, hfile, hdline, hdcolumn, d.one_le_line, d.one_le_column,
          hmessage, hrule, hraw⟩

/-- A line with two occurrences of the marker and brackets in its message. -/
def sampleLine : Text :=
  "[ERROR] [ERROR] a b.java:12:3: one [two] [A.b]\r\n"

/-- Its parts after the first occurrence. -/
def sampleReading : Reading :=
  ⟨" ", "[ERROR] a b", "12", "3", " one [two] ", "A.b", ""⟩

theorem valid_sample : sampleReading.Valid where
  blanks_ne_nil := by decide
  blanks := by decide
  name := ⟨⟨'[', by decide⟩, ⟨'b', by decide⟩, by decide⟩
  line := ⟨'1', "2", by decide⟩
  column := ⟨'3', "", by decide⟩
  text := by decide
  rule_ne_nil := by decide
  rule := by decide
  rest := by decide

theorem reads_sample :
    ({} : Extractor).Reads (Text.trimEnd isLineEnd sampleLine) [] sampleReading :=
  ⟨valid_sample, by decide⟩

/-- The line reports a finding, read from the first occurrence on. -/
theorem parseLine_reads_sample : ∃ d r, ({} : Extractor).parseLine sampleLine = .ok (some d) ∧
    ({} : Extractor).Reads (Text.trimEnd isLineEnd sampleLine) [] r ∧
    d.file = r.name ++ ".java" ∧ d.line = r.line.digitsValue := by
  have hshort : HasShortNumbers sampleLine := by
    intro run hrun _
    have hlength : sampleLine.length ≤ Json.digitLimit := by decide
    exact hrun.length_le.trans hlength
  obtain ⟨result, hresult, hiff, hparts⟩ := parseLine_reads {} hshort
  obtain ⟨d, rfl⟩ := Option.isSome_iff_exists.mp (hiff.mpr ⟨[], sampleReading, reads_sample⟩)
  obtain ⟨before, r, hreads, hleast, hfile, hline, -⟩ := hparts d rfl
  obtain rfl : before = [] := List.length_eq_zero_iff.mp
    (Nat.le_zero.mp (hleast [] sampleReading reads_sample))
  exact ⟨d, r, hresult, hreads, hfile, hline⟩

end LintMend.Extractor
