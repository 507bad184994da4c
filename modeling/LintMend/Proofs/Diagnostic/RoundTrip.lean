/-
LintMend.Proofs.Diagnostic.RoundTrip — diagnostics as checkers print them are read back.

A checker prints a diagnostic in one line, among lines without the marker. Such a line may be read
in several ways, and what is read back is what was printed only if no way is preferred to the right
one. The conditions of `Renderable` are about that: no marker further to the left, and no shorter
path.

  `rendered`, `Item`, `Renderable` — what is printed, and when it can be told apart
  `HasPlainPath.readPath?` — the path is the one that was printed
  `parseLine_rendered`     — one line
  `extract_joined`         — the whole output
-/
import LintMend.Proofs.Diagnostic.Grammar
import LintMend.Proofs.Text.Lines
import LintMend.Proofs.Text.Numeral

namespace LintMend.Extractor

variable {e : Extractor} {before trail text : Text} {d : Diagnostic}

/-! ## 1. What is printed -/

/-- What a checker prints of a diagnostic after the marker and a blank. -/
def printed (d : Diagnostic) (trail : Text) : Text :=
  d.location ++ ": " ++ d.message ++ " [" ++ d.rule ++ "]" ++ trail

/-- The line that a checker prints for a diagnostic. -/
def rendered (e : Extractor) (before : Text) (d : Diagnostic) (trail : Text) : Text :=
  before ++ e.marker ++ " " ++ printed d trail

/-- The path of a diagnostic is a name and the extension, and it is the shortest path that can be
read where it stands. For a name of a single code point, which is tried last, no longer path can be
read either. -/
structure HasPlainPath (e : Extractor) (d : Diagnostic) (trail name : Text) : Prop where
  file : d.file = name ++ e.extension
  isName : IsName name
  shortest : ∀ left right, d.file ++ ":" = left ++ e.extension ++ ":" ++ right → right = []
  single : name.length = 1 →
    ∀ left right, printed d trail = left ++ e.extension ++ ":" ++ right → left.length ≤ 1

/-- A diagnostic can be told from the line that is printed for it. -/
structure Renderable (e : Extractor) (before : Text) (d : Diagnostic) (trail : Text) : Prop where
  unbroken : ∀ c ∈ e.rendered before d trail, c.isLineBreak = false
  first : ∀ left right, e.rendered before d trail = left ++ e.marker ++ right →
    before.length ≤ left.length
  file : ∃ name, e.HasPlainPath d trail name
  line : (Text.ofNat d.line).length ≤ Json.digitLimit
  column : (Text.ofNat d.column).length ≤ Json.digitLimit
  message : d.message.strip = d.message
  rule : ∀ c ∈ d.rule, isRuleChar c = true
  trail : ∀ c ∈ trail, c.isSpace = true

/-- The parts of a printed line. -/
def partsOf (d : Diagnostic) (name trail : Text) : Reading :=
  ⟨" ", name, Text.ofNat d.line, Text.ofNat d.column, " " ++ d.message ++ " ", d.rule, trail⟩

theorem isNumber_ofNat {n : Nat} (h : 1 ≤ n) : IsNumber (Text.ofNat n) := by
  obtain ⟨first, rest, hn, hfirst⟩ := Text.ofNat_cons h
  refine ⟨first, rest, hn, hfirst, fun c hc => Text.isDigit_of_mem_ofNat (n := n) ?_⟩
  rw [hn]
  exact List.mem_cons_of_mem first hc

theorem strip_spaced (t : Text) : Text.strip (" " ++ t ++ " ") = t.strip :=
  Text.strip_padded (by decide) (by decide)

namespace Renderable

variable {name : Text}

theorem no_feed (h : e.Renderable before d trail) :
    ('\n' : CodePoint) ∉ e.rendered before d trail := fun hfeed =>
  absurd (h.unbroken _ hfeed) (by decide)

theorem valid (h : e.Renderable before d trail) (hname : IsName name) :
    (partsOf d name trail).Valid where
  blanks_ne_nil := by simp [partsOf, Text.ofString]
  blanks := by
    change ∀ c ∈ Text.ofString " ", c.isSpace = true
    decide
  name := hname
  line := isNumber_ofNat d.one_le_line
  column := isNumber_ofNat d.one_le_column
  text := by
    have hstrip : Text.strip (partsOf d name trail).text = d.message :=
      (strip_spaced d.message).trans h.message
    rw [hstrip]
    intro hfeed
    exact h.no_feed (by simp [rendered, printed, hfeed])
  rule_ne_nil := d.rule_ne_nil
  rule := h.rule
  rest := h.trail

theorem printed_eq (hfile : d.file = name ++ e.extension) : printed d trail =
    name ++ (e.extension ++ ":" ++ (partsOf d name trail).place) := by
  simp [printed, Diagnostic.location, partsOf, Reading.place, hfile, Text.ofString]

theorem reads (h : e.Renderable before d trail) (hpath : e.HasPlainPath d trail name) :
    e.Reads (e.rendered before d trail) before (partsOf d name trail) := by
  refine ⟨h.valid hpath.isName, ?_⟩
  rw [rendered, printed_eq hpath.file, Reading.written_eq]
  simp [partsOf]

end Renderable

/-! ## 2. The path -/

namespace HasPlainPath

variable {name : Text}

/-- A path that ends where the printed one does, or further to the left, is the printed one. -/
theorem eq_of_le {left place : Text} (h : e.HasPlainPath d trail name)
    (hcut : printed d trail = left ++ (e.extension ++ ":" ++ place))
    (hle : left.length ≤ name.length) : left = name := by
  have hleft : (left ++ e.extension ++ ":" : Text) <+: printed d trail :=
    ⟨place, by rw [hcut]; simp⟩
  have hname : (d.file ++ ":" : Text) <+: printed d trail :=
    ⟨(partsOf d name trail).place, by rw [Renderable.printed_eq h.file, h.file]; simp⟩
  obtain ⟨right, hright⟩ := List.prefix_of_prefix_length_le hleft hname (by
    simp only [h.file, List.length_append]
    omega)
  obtain rfl := h.shortest left right hright.symm
  rw [h.file] at hright
  simpa using hright

/-- **The path that is read is the printed one.** -/
theorem readPath? (h : e.HasPlainPath d trail name) (hr : (partsOf d name trail).Valid) :
    readPath? e.extension (printed d trail) =
      some ((partsOf d name trail).fields e.extension) := by
  have hcut : printed d trail = name ++ (e.extension ++ ":" ++ (partsOf d name trail).place) :=
    Renderable.printed_eq h.file
  have hread := hr.readAfterName? e.extension
  have hsome := readPath?_complete h.isName (Option.isSome_of_mem hread)
  obtain ⟨f, hf⟩ := Option.isSome_iff_exists.mp hsome
  change Extractor.readPath? e.extension (name ++ _) = some f at hf
  rw [← hcut] at hf
  obtain ⟨name', rest', hcut', isName', hread', hleast⟩ := readPath?_sound hf
  obtain ⟨place, rfl, -⟩ := readAfterName?_eq_some_iff.mp hread'
  have hle : name'.length ≤ name.length := by
    rcases hleast name _ hcut h.isName (Option.isSome_of_mem hread) with hle | hone
    · exact hle
    · rw [hone]
      exact h.single hone name' place (by rw [hcut']; simp)
  obtain rfl := h.eq_of_le hcut' hle
  obtain ⟨-, hrest⟩ := List.append_inj (hcut.symm.trans hcut') rfl
  change Extractor.readAfterName? e.extension name' _ = _ at hread
  rw [hrest, hread'] at hread
  rw [hf, hread]

end HasPlainPath

/-! ## 3. The line -/

theorem trimEnd_of_unbroken {t : Text} (h : ∀ c ∈ t, c.isLineBreak = false) :
    Text.trimEnd isLineEnd t = t := by
  obtain ⟨z, hz, hends⟩ := Text.trimEnd_cut isLineEnd t
  cases z with
  | nil => exact (hz.trans (List.append_nil _)).symm
  | cons c z =>
    have hbreak := h c (by rw [hz]; simp)
    have hend := hends c (List.mem_cons_self ..)
    simp only [isLineEnd, CodePoint.isLineBreak, Bool.or_eq_true, Bool.or_eq_false_iff,
      Bool.and_eq_false_iff, beq_iff_eq, decide_eq_false_iff_not] at hbreak hend
    omega

namespace Renderable

/-- **The fields that are read are the printed ones.** -/
theorem readFields? (h : e.Renderable before d trail) {name : Text}
    (hpath : e.HasPlainPath d trail name) :
    e.readFields? (e.rendered before d trail) =
      some ((partsOf d name trail).fields e.extension) := by
  have hreads := h.reads hpath
  have hsearch := readFields?_searched e (e.rendered before d trail)
  cases hfields : e.readFields? (e.rendered before d trail) with
  | none => exact absurd hreads (not_reads hfields)
  | some f =>
    rw [hfields] at hsearch
    obtain ⟨left, right, hcut, -, hread, hleast⟩ := hsearch
    obtain ⟨r, -, rfl, -⟩ := readHere?_eq_some hread
    have hcut' := hreads.2.trans (List.append_assoc ..)
    -- No marker stands before the printed one, and none after it is tried.
    have hlength : left.length = before.length := Nat.le_antisymm
      (hleast before _ hcut' trivial hreads.isSome)
      (h.first left (r.written e.extension) (by rw [hcut, List.append_assoc]))
    obtain ⟨rfl, hright⟩ := List.append_inj (hcut.symm.trans hcut') hlength
    have hwritten := readHere?_written e (partsOf d name trail)
    rw [hreads.1.readAfterMarker?] at hwritten
    have hpath' := hpath.readPath? hreads.1
    rw [printed_eq hpath.file] at hpath'
    exact hread.symm.trans ((congrArg e.readHere? hright).trans (hwritten.trans hpath'))

end Renderable

/-- What is read back from the line that is printed for a diagnostic: the diagnostic, with the line
that it was read from. -/
def readBack (e : Extractor) (before : Text) (d : Diagnostic) (trail : Text) : Diagnostic :=
  { d with rawLine := (e.rendered before d trail).strip }

/-- **A printed line is read back.** -/
theorem parseLine_rendered (h : e.Renderable before d trail) :
    e.parseLine (e.rendered before d trail) = .ok (some (e.readBack before d trail)) := by
  obtain ⟨name, hpath⟩ := h.file
  have hreads := h.reads hpath
  have htrim := trimEnd_of_unbroken h.unbroken
  have hmarks : e.marks (e.rendered before d trail) = true := Reads.marks (by rwa [htrim])
  obtain ⟨d', hd', hfile, hline, hcolumn, hmessage, hrule, hraw⟩ := hreads.1.diagnostic h.line
    h.column e.extension (e.rendered before d trail).strip
  have hsame : d' = e.readBack before d trail := by
    obtain ⟨file, line, column, message, rule, raw, _, _, _⟩ := d'
    obtain rfl : file = d.file := hfile.trans hpath.file.symm
    obtain rfl : line = d.line := hline.trans (Text.digitsValue_ofNat d.line)
    obtain rfl : column = d.column := hcolumn.trans (Text.digitsValue_ofNat d.column)
    obtain rfl : message = d.message := hmessage.trans ((strip_spaced d.message).trans h.message)
    obtain rfl : rule = d.rule := hrule
    obtain rfl : raw = (e.rendered before d trail).strip := hraw
    rfl
  rw [parseLine, if_pos hmarks, htrim, h.readFields? hpath]
  simp only [hd', hsame]

/-! ## 4. The output -/

/-- A line of output: one without the marker, or a printed diagnostic. -/
inductive Item where
  | noise (line : Text)
  | finding (before : Text) (d : Diagnostic) (trail : Text)

namespace Item

/-- The line. -/
def line (e : Extractor) : Item → Text
  | noise line => line
  | finding before d trail => e.rendered before d trail

/-- What is read back from the line. -/
def readBack? (e : Extractor) : Item → Option Diagnostic
  | noise _ => none
  | finding before d trail => some (e.readBack before d trail)

/-- The line is one line, and it has no marker or can be told apart. -/
inductive Fits (e : Extractor) : Item → Prop
  | noise {line : Text} : (∀ c ∈ line, c.isLineBreak = false) → ¬ e.marker <:+: line →
      Fits e (.noise line)
  | finding {before trail : Text} {d : Diagnostic} : e.Renderable before d trail →
      Fits e (.finding before d trail)

theorem Fits.unbroken {item : Item} (h : item.Fits e) :
    ∀ c ∈ item.line e, c.isLineBreak = false := by
  cases h with
  | noise hline => exact hline
  | finding hrendered => exact hrendered.unbroken

end Item

/-- The lines with the marker are the printed ones, and all of them are read back. -/
theorem parseLines_items {items : List Item} (hitems : ∀ item ∈ items, item.Fits e) :
    (e.parseLines ((items.map (Item.line e)).filter e.marks)).2 =
      .ok (items.filterMap (Item.readBack? e)) := by
  induction items with
  | nil => rfl
  | cons item rest ih =>
    obtain ⟨hitem, hrest⟩ := List.forall_mem_cons.mp hitems
    rw [List.map_cons, List.filter_cons]
    cases hitem with
    | @noise line _ hmarker =>
      have hmarks : e.marks line = false := by
        rw [← Bool.not_eq_true]
        exact fun hmarks => hmarker (Text.contains_iff.mp hmarks)
      rw [Item.line, hmarks, List.filterMap_cons_none rfl]
      exact ih hrest
    | @finding before trail d hrendered =>
      have hline := parseLine_rendered hrendered
      have hmarks : e.marks (e.rendered before d trail) = true :=
        Text.contains_iff.mpr ⟨before, " " ++ printed d trail, by simp [rendered]⟩
      have hback : (Item.finding before d trail).readBack? e =
          some (e.readBack before d trail) := rfl
      rw [Item.line, if_pos hmarks, List.filterMap_cons_some hback, parseLines, hline]
      dsimp only
      rw [ih hrest]
      rfl

/-- An extraction returns what its lines come to. -/
theorem extract_result (e : Extractor) (text : Text) :
    (e.extract text).2 = (e.parseLines (e.markedLines text)).2 := by
  rw [extract]
  split
  next skipped result hparsed =>
  rw [hparsed]
  cases result <;> rfl

/-- **Printing and extracting is the identity.** Noise without the marker may stand anywhere between
the printed lines, and lines may be joined with line feeds or with carriage returns and line
feeds. -/
theorem extract_joined (hmarker : e.marker ≠ []) {items : List Item}
    (hitems : ∀ item ∈ items, item.Fits e) (htext : Text.Joined (items.map (Item.line e)) text) :
    (e.extract text).2 = .ok (items.filterMap (Item.readBack? e)) := by
  have hempty : e.marks [] = false := by
    simpa [marks, Text.contains] using hmarker
  have hlines : ∀ line ∈ items.map (Item.line e), ∀ c ∈ line, c.isLineBreak = false := by
    intro line hline
    obtain ⟨item, hitem, rfl⟩ := List.mem_map.mp hline
    exact (hitems item hitem).unbroken
  rw [extract_result, markedLines, Text.filter_lines_joined hempty htext hlines]
  exact parseLines_items hitems

/-! ## 5. A line that can be read in two ways -/

/-- A part of a text begins where the text before it ends. -/
theorem startsWith_drop {t left part right : Text} (h : t = left ++ part ++ right) :
    Text.startsWith part (t.drop left.length) = true := by
  rw [h, List.append_assoc, List.drop_left, Text.startsWith, List.isPrefixOf_iff_prefix]
  exact List.prefix_append part right

/-- A finding with a blank in its path, whose message holds another one. -/
def twistedFinding : Diagnostic :=
  ⟨"a b.java", 12, 3, "see [ERROR] c.java:1:1: x [y]", "A.b", "", by decide, by decide, by decide⟩

theorem renderable_twisted : ({} : Extractor).Renderable "> " twistedFinding " " where
  unbroken := by decide
  first := by
    intro left right hcut
    have hstarts := startsWith_drop hcut
    have hnone : ∀ k < 2, Text.startsWith "[ERROR]"
        ((({} : Extractor).rendered "> " twistedFinding " ").drop k) = false := by decide
    by_contra hlength
    rw [hnone left.length (Nat.not_le.mp hlength)] at hstarts
    exact absurd hstarts (by simp)
  file := by
    refine ⟨"a b", by decide, ⟨⟨'a', by decide⟩, ⟨'b', by decide⟩, by decide⟩, ?_, ?_⟩
    · intro left right hcut
      rw [List.append_assoc left] at hcut
      have hstarts := startsWith_drop hcut
      have honce : ∀ k < 10, Text.startsWith (".java" ++ ":" : Text)
          ((twistedFinding.file ++ ":").drop k) = true → k = 3 := by decide
      have hfile : (twistedFinding.file ++ ":").length = 9 := by decide
      have hend : (({} : Extractor).extension ++ ":").length = 6 := by decide
      rw [hcut, List.length_append, List.length_append, hend] at hfile
      have hthree := honce left.length (by omega) hstarts
      exact List.length_eq_zero_iff.mp (by omega)
    · intro hone
      exact absurd hone (by decide)
  line := by decide
  column := by decide
  message := by decide
  rule := by decide
  trail := by decide

/-- The line is read back from between two lines of noise. -/
theorem extract_joined_twisted : ∃ text,
    Text.Joined ["noise", ({} : Extractor).rendered "> " twistedFinding " ", "noise"] text ∧
    (({} : Extractor).extract text).2 =
      .ok [({} : Extractor).readBack "> " twistedFinding " "] := by
  have hnoise : (Item.noise "noise").Fits {} :=
    .noise (by decide) fun hmarker => absurd (Text.contains_iff.mpr hmarker) (by decide)
  have hitems : ∀ item ∈ [Item.noise "noise", .finding "> " twistedFinding " ", .noise "noise"],
      item.Fits {} :=
    List.forall_mem_cons.mpr ⟨hnoise, List.forall_mem_cons.mpr
      ⟨.finding renderable_twisted, List.forall_mem_singleton.mpr hnoise⟩⟩
  have htext := Text.Joined.returnFeed "noise"
    (.feed (({} : Extractor).rendered "> " twistedFinding " ") (.last "noise"))
  exact ⟨_, htext, extract_joined (by decide) hitems htext⟩

end LintMend.Extractor
