import AccessControl.Proofs.PathSpelling
import Mathlib.Data.List.Infix
import Mathlib.Data.List.TakeWhile

/-!
# The canonical form of a path

A normalised path holds names only: no segment is empty or made of dots, and none has a character that separates
segments or ends a path. So the text of the path reads back as the same path, whatever URI and context path it came from.
The main statement adds that a query or a fragment behind a URI has no influence on its path.

## Implementation notes

Reading back is the walk over a listed path, `walk_flatMap`, from the root: the text of a canonical path is such a list,
and nothing of it is lost before the walk, since it has no mark and starts with a slash.
-/
namespace AccessControl

namespace RequestPath

/-- A segment that is written in a URI as it is and is read as a name. -/
structure CanonicalSegment (s : String) : Prop where
  nonempty : s ≠ ""
  not_dot : s ≠ "."
  not_dots : s ≠ ".."
  unmarked : ∀ c ∈ s.toList, c ≠ '/' ∧ c ≠ '?' ∧ c ≠ '#'

/-- A path of such segments. -/
def Canonical (p : RequestPath) : Prop :=
  ∀ s ∈ p.segments, CanonicalSegment s

section Segments

variable {path piece : List Char} {c : Char}

/-- A piece between slashes has characters of the path, and no slash. -/
theorem mem_of_mem_splitSlashes (hpiece : piece ∈ splitSlashes path) (hc : c ∈ piece) : c ∈ path ∧ c ≠ '/' := by
  induction path generalizing piece with
  | nil =>
      rw [splitSlashes, List.mem_singleton] at hpiece
      rw [hpiece] at hc
      cases hc
  | cons d rest ih =>
      have hbehind {piece : List Char} (hpiece : piece ∈ splitSlashes rest) (hc : c ∈ piece) :
          c ∈ d :: rest ∧ c ≠ '/' := (ih hpiece hc).imp_left (List.mem_cons_of_mem d)
      rw [splitSlashes] at hpiece
      by_cases hd : d = '/'
      · rw [if_pos hd, List.mem_cons] at hpiece
        rcases hpiece with rfl | hpiece
        · cases hc
        · exact hbehind hpiece hc
      · rw [if_neg hd] at hpiece
        split at hpiece
        · rw [List.mem_singleton] at hpiece
          rw [hpiece, List.mem_singleton] at hc
          exact ⟨List.mem_cons.mpr (.inl hc), hc ▸ hd⟩
        · next first more hsplit =>
            rw [hsplit] at hbehind
            rcases List.mem_cons.mp hpiece with rfl | hpiece
            · rcases List.mem_cons.mp hc with rfl | hc
              · exact ⟨List.mem_cons_self, hd⟩
              · exact hbehind List.mem_cons_self hc
            · exact hbehind (List.mem_cons_of_mem first hpiece) hc

theorem mem_of_mem_withinContext {contextPath : List Char} (hc : c ∈ withinContext contextPath path) : c ∈ path := by
  rw [withinContext_eq] at hc
  cases hbehind : behind? contextPath path with
  | none =>
      rw [hbehind] at hc
      exact hc
  | some rest =>
      rw [hbehind] at hc
      rw [(behind?_eq_some.mp hbehind).1]
      exact List.mem_append_right contextPath hc

theorem ne_mark_of_mem_pathPart {uri : List Char} (hc : c ∈ pathPart uri) : c ≠ '?' ∧ c ≠ '#' := by
  simpa using List.mem_takeWhile_imp hc

/-- What holds of the segments before and of every piece that names one holds of the segments in the end. -/
theorem forall_mem_foldl_addPiece {P : String → Prop} {pieces : List (List Char)} {segments : List String}
    (hsegments : ∀ s ∈ segments, P s) (hpieces : ∀ piece ∈ pieces, NamesSegment piece → P (String.ofList piece)) :
    ∀ s ∈ pieces.foldl addPiece segments, P s := by
  induction pieces generalizing segments with
  | nil => exact hsegments
  | cons piece rest ih =>
      obtain ⟨hpiece, hrest⟩ := List.forall_mem_cons.mp hpieces
      refine ih ?_ hrest
      rcases piece_cases piece with rfl | rfl | rfl | hnames
      · exact hsegments
      · exact hsegments
      · exact fun s hs => hsegments s (List.mem_of_mem_dropLast hs)
      · rw [addPiece_of_namesSegment hnames, List.forall_mem_append, List.forall_mem_singleton]
        exact ⟨hsegments, hpiece hnames⟩

theorem canonicalSegment_ofList (hnames : NamesSegment piece) (hchars : ∀ c ∈ piece, c ≠ '/' ∧ c ≠ '?' ∧ c ≠ '#') :
    CanonicalSegment (String.ofList piece) := by
  have hne {text : List Char} (htext : piece ≠ text) : String.ofList piece ≠ String.ofList text :=
    fun h => htext (String.ofList_injective h)
  refine ⟨hne hnames.1, hne hnames.2.1, hne hnames.2.2, ?_⟩
  rwa [String.toList_ofList]

theorem CanonicalSegment.namesSegment {s : String} (h : CanonicalSegment s) : NamesSegment s.toList := by
  have hne {text : List Char} (htext : s ≠ String.ofList text) : s.toList ≠ text :=
    fun h => htext (by rw [← h, String.ofList_toList])
  exact ⟨hne h.nonempty, hne h.not_dot, hne h.not_dots⟩

/-- The path of a request is canonical. -/
theorem canonical_ofRequest (r : Request) : (ofRequest r).Canonical := by
  refine forall_mem_foldl_addPiece nofun fun piece hpiece hnames => canonicalSegment_ofList hnames fun c hc => ?_
  obtain ⟨hmem, hslash⟩ := mem_of_mem_splitSlashes hpiece hc
  exact ⟨hslash, ne_mark_of_mem_pathPart (mem_of_mem_withinContext hmem)⟩

end Segments

section Texts

variable {p : RequestPath} {r : Request}

theorem toList_text (p : RequestPath) :
    p.text.toList = if p.segments = [] then ['/'] else (p.segments.map String.toList).flatMap ('/' :: ·) := by
  unfold text
  cases p.segments with
  | nil => rfl
  | cons s rest => simp [String.toList_join, List.flatMap_map]

/-- The text of a path starts with a slash, and has further ones between the segments only. -/
theorem text_eq_intercalate (p : RequestPath) : p.text = "/" ++ "/".intercalate p.segments := by
  obtain ⟨segments⟩ := p
  have hjoin (s : String) (rest : List String) :
      String.join ((s :: rest).map ("/" ++ ·)) = "/" ++ "/".intercalate (s :: rest) := by
    induction rest generalizing s with
    | nil => rw [List.map_singleton, String.join_cons, String.join_nil, String.append_empty, String.intercalate_singleton]
    | cons next rest ih =>
        rw [List.map_cons, String.join_cons, ih, String.intercalate_cons_cons, String.append_assoc, String.append_assoc]
  cases segments with
  | nil => rfl
  | cons s rest => exact hjoin s rest

theorem Canonical.unmarked (h : p.Canonical) {c : Char} (hc : c ∈ p.text.toList) : c ≠ '?' ∧ c ≠ '#' := by
  rw [toList_text] at hc
  split at hc
  · rw [List.mem_singleton.mp hc]
    decide
  · simp only [List.mem_flatMap, List.mem_map, List.mem_cons, exists_exists_and_eq_and] at hc
    obtain ⟨s, hs, rfl | hc⟩ := hc
    · decide
    · exact ((h s hs).unmarked c hc).2

/-- Before a walk nothing of a path at the root is taken off. -/
theorem withinContext_root {path : List Char} (h : AtBoundary path) : withinContext [] path = path := by
  rw [withinContext_eq, ← List.nil_append path, behind?_append h]
  rfl

theorem walk_text (h : p.Canonical) : walk [] p.text.toList = p.segments := by
  rw [toList_text]
  split
  · next hnone =>
      rw [hnone]
      rfl
  · have hpieces : ∀ piece ∈ p.segments.map String.toList, NamesSegment piece ∧ '/' ∉ piece := by
      rw [List.forall_mem_map]
      exact fun s hs => ⟨(h s hs).namesSegment, fun hslash => ((h s hs).unmarked '/' hslash).1 rfl⟩
    have hwalk := walk_flatMap hpieces (.inl rfl : AtBoundary []) []
    simpa [Function.comp_def] using hwalk

/-- The text of a canonical path reads back as the path. -/
theorem Canonical.ofRequest_eq (h : p.Canonical) (huri : r.uri = p.text) (hroot : r.contextPath = "") :
    ofRequest r = p := by
  have hpath : pathPart p.text.toList = p.text.toList :=
    List.takeWhile_eq_self_iff.mpr fun c hc => by simpa using h.unmarked hc
  have hboundary : AtBoundary p.text.toList := by
    rw [toList_text]
    split
    · exact .inr ⟨[], rfl⟩
    · have hflat := atBoundary_flatMap (p.segments.map String.toList) (.inl rfl)
      rwa [List.append_nil] at hflat
  calc
    ofRequest r = ⟨walk [] (withinContext r.contextPath.toList (pathPart r.uri.toList))⟩ := rfl
    _ = ⟨walk [] p.text.toList⟩ := by rw [huri, hroot, hpath, String.toList_empty, withinContext_root hboundary]
    _ = p := by rw [walk_text h]

/-- A path ends at the first mark. -/
theorem pathPart_append_mark {mark : Char} (hmark : mark = '?' ∨ mark = '#') (uri rest : List Char) :
    pathPart (uri ++ mark :: rest) = pathPart uri := by
  unfold pathPart
  induction uri with
  | nil => rcases hmark with rfl | rfl <;> rfl
  | cons c uri ih => rw [List.cons_append, List.takeWhile_cons, List.takeWhile_cons, ih]

end Texts

/-- The path of a request has names as segments, none empty and none of dots, without slashes and without the marks of a
query and a fragment. Its text is a slash and the segments with slashes between them, and it is read back as the same
path at the root. What follows a mark behind a URI does not change the path. -/
theorem ofRequest_canonical (r : Request) :
    (∀ s ∈ (ofRequest r).segments, s ≠ "" ∧ s ≠ "." ∧ s ≠ ".." ∧ ∀ c ∈ s.toList, c ≠ '/' ∧ c ≠ '?' ∧ c ≠ '#') ∧
    (ofRequest r).text = "/" ++ "/".intercalate (ofRequest r).segments ∧
    (∀ r' : Request, ofRequest { r' with uri := (ofRequest r).text, contextPath := "" } = ofRequest r) ∧
    ∀ text : String, ofRequest { r with uri := r.uri ++ "?" ++ text } = ofRequest r ∧
      ofRequest { r with uri := r.uri ++ "#" ++ text } = ofRequest r := by
  have hcanonical := canonical_ofRequest r
  have hmarked {mark : Char} (hmark : mark = '?' ∨ mark = '#') (text : String) :
      ofRequest { r with uri := r.uri ++ String.singleton mark ++ text } = ofRequest r := by
    unfold ofRequest
    simp only [String.toList_append, String.toList_singleton, List.append_assoc, List.singleton_append,
      pathPart_append_mark hmark]
  refine ⟨fun s hs => ?_, text_eq_intercalate _, fun r' => hcanonical.ofRequest_eq rfl rfl, fun text => ?_⟩
  · obtain ⟨hnonempty, hdot, hdots, hunmarked⟩ := hcanonical s hs
    exact ⟨hnonempty, hdot, hdots, hunmarked⟩
  · exact ⟨hmarked (.inl rfl) text, hmarked (.inr rfl) text⟩

/-- A URI that climbs out of the context path, with marks in another order. -/
theorem ofRequest_canonical_of_climbing :
    let r : Request := { method := .get, uri := "/app/../..//docs/./a?b#c/../d", contextPath := "/app" }
    ofRequest r = ⟨["docs", "a"]⟩ ∧ "docs" ∈ (ofRequest r).segments ∧
      (∀ c ∈ "docs".toList, c ≠ '/' ∧ c ≠ '?' ∧ c ≠ '#') ∧
      ofRequest { r with uri := "/docs/a", contextPath := "" } = ofRequest r := by
  intro r
  have hpath : ofRequest r = ⟨["docs", "a"]⟩ := by decide +kernel
  have htext : (ofRequest r).text = "/docs/a" := by decide +kernel
  have hmem : "docs" ∈ (ofRequest r).segments := by
    rw [hpath]
    exact List.mem_cons_self
  obtain ⟨hsegments, -, hback, -⟩ := ofRequest_canonical r
  refine ⟨hpath, hmem, (hsegments "docs" hmem).2.2.2, ?_⟩
  rw [← htext]
  exact hback r

end RequestPath

end AccessControl
