import AccessControl.Policy.Matcher
import Mathlib.Data.List.Induction

/-!
# Spellings of a path

URIs that differ in slashes and dots may lead to the same segments. A context path is taken off before slashes and dots
are resolved, so what is left depends on how a URI writes it. `removed` counts the segments that are taken off in the
end. The main statement says that URIs which lead to the same segments have the same normalised path just if the same
number of segments is taken off, and so wherever both enter the context path and stay inside.

## Implementation notes

Walking on from some segments keeps those of them that the way does not climb above. Everything here is read off this
one fact, `foldl_addPiece_append`, of which an entered context path and the rest behind it are the instance.
-/
namespace AccessControl

namespace RequestPath

/-- A piece that names a segment. -/
def NamesSegment (piece : List Char) : Prop :=
  piece ≠ [] ∧ piece ≠ ['.'] ∧ piece ≠ ['.', '.']

instance (piece : List Char) : Decidable (NamesSegment piece) :=
  inferInstanceAs (Decidable (_ ∧ _))

/-- What is nothing, or starts with a slash. -/
def AtBoundary (path : List Char) : Prop :=
  path = [] ∨ ∃ rest, path = '/' :: rest

/-- The segments to which a path leads from some segments. -/
def walk (segments : List String) (path : List Char) : List String :=
  (splitSlashes path).foldl addPiece segments

/-- The segments to which a URI leads, those of the context path included. -/
def denoted (uri : String) : List String :=
  walk [] (pathPart uri.toList)

/-- How often pieces lead to the parent of a place that is not below the start, if they are walked from a place that
lies `depth` segments below it. -/
def climb : Nat → List (List Char) → Nat
  | _, [] => 0
  | depth, [] :: rest => climb depth rest
  | depth, ['.'] :: rest => climb depth rest
  | 0, ['.', '.'] :: rest => climb 0 rest + 1
  | depth + 1, ['.', '.'] :: rest => climb depth rest
  | depth, _ :: rest => climb (depth + 1) rest

/-- What follows the context path in a path that enters it. -/
def behind? (contextPath path : List Char) : Option (List Char) :=
  if contextPath.isPrefixOf path then
    match path.drop contextPath.length with
    | [] => some []
    | c :: rest => if c = '/' then some (c :: rest) else none
  else none

/-- How many segments of the context path are taken off: all that are left when the path behind it has climbed. -/
def removed (r : Request) : Nat :=
  match behind? r.contextPath.toList (pathPart r.uri.toList) with
  | none => 0
  | some rest => (walk [] r.contextPath.toList).length - climb 0 (splitSlashes rest)

/-- A path that enters the context path and never climbs above it. -/
def StaysInside (r : Request) : Prop :=
  ∃ rest, behind? r.contextPath.toList (pathPart r.uri.toList) = some rest ∧ climb 0 (splitSlashes rest) = 0

/-- A context path that is empty, or lists segments, each after a slash. -/
def NormalContext (contextPath : String) : Prop :=
  ∃ pieces : List (List Char), (∀ piece ∈ pieces, NamesSegment piece ∧ '/' ∉ piece) ∧
    contextPath.toList = pieces.flatMap ('/' :: ·)

section Walking

variable {segments base : List String} {piece path rest : List Char}

theorem piece_cases (piece : List Char) : piece = [] ∨ piece = ['.'] ∨ piece = ['.', '.'] ∨ NamesSegment piece := by
  unfold NamesSegment
  tauto

theorem addPiece_of_namesSegment (h : NamesSegment piece) (segments : List String) :
    addPiece segments piece = segments ++ [String.ofList piece] := by
  unfold addPiece
  split
  · exact absurd rfl h.1
  · exact absurd rfl h.2.1
  · exact absurd rfl h.2.2
  · rfl

theorem climb_of_namesSegment (h : NamesSegment piece) (depth : Nat) (rest : List (List Char)) :
    climb depth (piece :: rest) = climb (depth + 1) rest := by
  rw [climb]
  · exact h.1
  · exact h.2.1
  · exact fun _ => h.2.2
  · exact fun _ _ => h.2.2

/-- Pieces that are walked from a place below a base keep of the base what they do not climb above. -/
theorem foldl_addPiece_append (base segments : List String) (pieces : List (List Char)) :
    pieces.foldl addPiece (base ++ segments) =
      base.take (base.length - climb segments.length pieces) ++ pieces.foldl addPiece segments := by
  induction pieces generalizing base segments with
  | nil => simp [climb]
  | cons piece rest ih =>
      rw [List.foldl_cons, List.foldl_cons]
      rcases piece_cases piece with rfl | rfl | rfl | hpiece
      · exact ih base segments
      · exact ih base segments
      · cases segments using List.reverseRecOn with
        | nil =>
            -- There is no segment below the base any more, so one of the base is lost.
            have hbase : base.dropLast = base.take (base.length - 1) := List.dropLast_eq_take
            have hdots := ih base.dropLast []
            rw [List.append_nil] at hdots ⊢
            change rest.foldl addPiece base.dropLast =
              base.take (base.length - (climb 0 rest + 1)) ++ rest.foldl addPiece []
            rw [hdots, List.length_dropLast, hbase, List.take_take]
            congr 2
            simp only [List.length_nil]
            omega
        | append_singleton segments last =>
            have hdots := ih base segments
            change rest.foldl addPiece (base ++ (segments ++ [last])).dropLast =
              _ ++ rest.foldl addPiece (segments ++ [last]).dropLast
            rw [← List.append_assoc, List.dropLast_concat, List.dropLast_concat, List.length_append,
              List.length_singleton]
            exact hdots
      · rw [addPiece_of_namesSegment hpiece, addPiece_of_namesSegment hpiece, climb_of_namesSegment hpiece,
          List.append_assoc, ih, List.length_append, List.length_singleton]

theorem walk_eq_append (base : List String) (path : List Char) :
    walk base path = base.take (base.length - climb 0 (splitSlashes path)) ++ walk [] path := by
  have happend := foldl_addPiece_append base [] (splitSlashes path)
  rwa [List.append_nil] at happend

@[simp] theorem walk_nil (segments : List String) : walk segments [] = segments := rfl

@[simp] theorem walk_slash (segments : List String) (path : List Char) :
    walk segments ('/' :: path) = walk segments path := rfl

theorem splitSlashes_of_not_mem (h : '/' ∉ piece) : splitSlashes piece = [piece] := by
  induction piece with
  | nil => rfl
  | cons c rest ih =>
      rw [List.mem_cons, not_or] at h
      rw [splitSlashes, if_neg (Ne.symm h.1), ih h.2]

theorem splitSlashes_append (h : '/' ∉ piece) (path : List Char) :
    splitSlashes (piece ++ '/' :: path) = piece :: splitSlashes path := by
  induction piece with
  | nil => rfl
  | cons c rest ih =>
      rw [List.mem_cons, not_or] at h
      rw [List.cons_append, splitSlashes, if_neg (Ne.symm h.1), ih h.2]

theorem walk_append (h : '/' ∉ piece) (hpath : AtBoundary path) :
    walk segments (piece ++ path) = walk (addPiece segments piece) path := by
  rcases hpath with rfl | ⟨rest, rfl⟩
  · rw [List.append_nil, walk, splitSlashes_of_not_mem h]
    rfl
  · rw [walk_slash, walk, splitSlashes_append h]
    rfl

theorem atBoundary_flatMap (pieces : List (List Char)) (h : AtBoundary rest) :
    AtBoundary (pieces.flatMap ('/' :: ·) ++ rest) := by
  cases pieces with
  | nil => exact h
  | cons piece more => exact .inr ⟨_, rfl⟩

/-- A listed context path leads to the segments that it lists. -/
theorem walk_flatMap {pieces : List (List Char)} (hpieces : ∀ piece ∈ pieces, NamesSegment piece ∧ '/' ∉ piece)
    (hrest : AtBoundary rest) (segments : List String) :
    walk segments (pieces.flatMap ('/' :: ·) ++ rest) = walk (segments ++ pieces.map String.ofList) rest := by
  induction pieces generalizing segments with
  | nil => rw [List.map_nil, List.append_nil, List.flatMap_nil, List.nil_append]
  | cons piece more ih =>
      obtain ⟨hnames, hslash⟩ := hpieces piece List.mem_cons_self
      have hmore : ∀ p ∈ more, NamesSegment p ∧ '/' ∉ p := fun p hp => hpieces p (List.mem_cons_of_mem _ hp)
      rw [List.flatMap_cons, List.cons_append, List.cons_append, walk_slash, List.append_assoc,
        walk_append hslash (atBoundary_flatMap more hrest), addPiece_of_namesSegment hnames, ih hmore, List.map_cons,
        List.append_assoc, List.singleton_append]

theorem normalContext_of_piece (hnames : NamesSegment piece) (hslash : '/' ∉ piece) :
    NormalContext (String.ofList ('/' :: piece)) := by
  refine ⟨[piece], ?_, ?_⟩
  · intro p hp
    rw [List.mem_singleton.mp hp]
    exact ⟨hnames, hslash⟩
  · rw [String.toList_ofList, List.flatMap_singleton]

theorem NormalContext.walk_append {contextPath : String} (h : NormalContext contextPath) (hrest : AtBoundary rest) :
    walk [] (contextPath.toList ++ rest) = walk (walk [] contextPath.toList) rest := by
  obtain ⟨pieces, hpieces, hcontext⟩ := h
  have hwhole : walk [] contextPath.toList = pieces.map String.ofList := by
    have hflat := walk_flatMap hpieces (.inl rfl : AtBoundary []) []
    rwa [List.append_nil, ← hcontext, walk_nil, List.nil_append] at hflat
  rw [hwhole, hcontext, walk_flatMap hpieces hrest, List.nil_append]

end Walking

section Context

variable {contextPath path rest : List Char}

theorem behind?_append (h : AtBoundary rest) : behind? contextPath (contextPath ++ rest) = some rest := by
  have hprefix : contextPath.isPrefixOf (contextPath ++ rest) = true :=
    List.isPrefixOf_iff_prefix.mpr (List.prefix_append contextPath rest)
  rw [behind?, if_pos hprefix, List.drop_left]
  rcases h with rfl | ⟨rest, rfl⟩ <;> rfl

theorem behind?_eq_some : behind? contextPath path = some rest ↔ path = contextPath ++ rest ∧ AtBoundary rest := by
  constructor
  · intro h
    unfold behind? at h
    split at h
    · next hprefix =>
        obtain ⟨behind, rfl⟩ := List.isPrefixOf_iff_prefix.mp hprefix
        rw [List.drop_left] at h
        split at h
        · cases h
          exact ⟨rfl, .inl rfl⟩
        · split at h
          · next c more hc =>
              cases h
              exact ⟨rfl, .inr ⟨more, congrArg (· :: more) hc⟩⟩
          · cases h
    · cases h
  · rintro ⟨rfl, hrest⟩
    exact behind?_append hrest

/-- What a path names inside an application is what follows the context path, if it enters it. -/
theorem withinContext_eq (contextPath path : List Char) :
    withinContext contextPath path = (behind? contextPath path).getD path := by
  unfold withinContext behind?
  split
  · cases path.drop contextPath.length with
    | nil => rfl
    | cons c rest =>
        by_cases hc : c = '/'
        · simp only [if_pos hc, Option.getD_some]
        · simp only [if_neg hc, Option.getD_none]
  · rfl

end Context

section Requests

variable {r r' : Request} {rest : List Char}

/-- A URI that enters the context path leads to what is taken off, and from there to what it names inside. -/
theorem denoted_eq_append (h : NormalContext r.contextPath)
    (hbehind : behind? r.contextPath.toList (pathPart r.uri.toList) = some rest) :
    denoted r.uri = (walk [] r.contextPath.toList).take (removed r) ++ walk [] rest := by
  obtain ⟨hpath, hrest⟩ := behind?_eq_some.mp hbehind
  rw [denoted, hpath, h.walk_append hrest, walk_eq_append, removed, hbehind]

/-- The normalised path is what the URI leads to, without what is taken off. -/
theorem ofRequest_eq_drop (h : NormalContext r.contextPath) :
    removed r ≤ (denoted r.uri).length ∧ ofRequest r = ⟨(denoted r.uri).drop (removed r)⟩ := by
  have hpath : ofRequest r = ⟨walk [] ((behind? r.contextPath.toList (pathPart r.uri.toList)).getD
      (pathPart r.uri.toList))⟩ := by
    rw [← withinContext_eq]
    rfl
  cases hbehind : behind? r.contextPath.toList (pathPart r.uri.toList) with
  | none =>
      have hremoved : removed r = 0 := by rw [removed, hbehind]
      rw [hpath, hbehind, hremoved]
      exact ⟨Nat.zero_le _, rfl⟩
  | some rest =>
      have hremoved : ((walk [] r.contextPath.toList).take (removed r)).length = removed r := by
        rw [List.length_take_of_le]
        rw [removed, hbehind]
        exact Nat.sub_le _ _
      rw [hpath, hbehind, denoted_eq_append h hbehind, List.drop_left' hremoved, List.length_append, hremoved]
      exact ⟨Nat.le_add_right _ _, rfl⟩

theorem removed_of_staysInside (h : StaysInside r) : removed r = (walk [] r.contextPath.toList).length := by
  obtain ⟨rest, hbehind, hclimb⟩ := h
  rw [removed, hbehind]
  dsimp only
  rw [hclimb, Nat.sub_zero]

theorem removed_of_root (h : r.contextPath = "") : removed r = 0 := by
  rw [removed, h]
  split
  · rfl
  · exact Nat.zero_sub _

/-- Requests whose URIs lead to the same segments have the same path just if the same number of segments is taken
off. -/
theorem ofRequest_eq_iff (hcontext : NormalContext r.contextPath) (hcontext' : NormalContext r'.contextPath)
    (hdenoted : denoted r.uri = denoted r'.uri) : ofRequest r = ofRequest r' ↔ removed r = removed r' := by
  obtain ⟨hle, hpath⟩ := ofRequest_eq_drop hcontext
  obtain ⟨hle', hpath'⟩ := ofRequest_eq_drop hcontext'
  rw [hpath, hpath', ← hdenoted, RequestPath.mk.injEq]
  rw [← hdenoted] at hle'
  constructor
  · intro heq
    have hlength := congrArg List.length heq
    rw [List.length_drop, List.length_drop] at hlength
    omega
  · intro heq
    rw [heq]

end Requests

end RequestPath

namespace Matcher

mutual

/-- Besides the path a matcher looks at the method only. -/
theorem accepts_congr {r r' : Request} (h : r.method = r'.method) (p : RequestPath) (m : Matcher) :
    m.accepts r p = m.accepts r' p := by
  cases m with
  | any => rfl
  | path pattern method => rw [accepts, accepts, h]
  | or matchers => exact someAccepts_congr h p matchers

theorem someAccepts_congr {r r' : Request} (h : r.method = r'.method) (p : RequestPath) (ms : List Matcher) :
    someAccepts r p ms = someAccepts r' p ms := by
  cases ms with
  | nil => rfl
  | cons m rest => rw [someAccepts, someAccepts, accepts_congr h p m, someAccepts_congr h p rest]

end

end Matcher

namespace RequestPath

/-- Behind one context path, two URIs that lead to the same segments have the same normalised path just if the same
number of segments of the context path is taken off. That is so at the root, and for URIs that both enter the context
path and stay inside. Every matcher then accepts both requests or neither. -/
theorem spellings_agree_iff (r r' : Request) (hcontext : r.contextPath = r'.contextPath)
    (hnormal : NormalContext r.contextPath) (hdenoted : denoted r.uri = denoted r'.uri) :
    (ofRequest r = ofRequest r' ↔ removed r = removed r') ∧
    (r.contextPath = "" → ofRequest r = ofRequest r') ∧
    (StaysInside r → StaysInside r' → ofRequest r = ofRequest r') ∧
    (removed r = removed r' → r.method = r'.method → ∀ m : Matcher,
      m.accepts r (ofRequest r) = m.accepts r' (ofRequest r')) := by
  have hiff := ofRequest_eq_iff hnormal (hcontext ▸ hnormal) hdenoted
  refine ⟨hiff, fun hroot => ?_, fun hinside hinside' => ?_, fun hremoved hmethod m => ?_⟩
  · rw [hiff, removed_of_root hroot, removed_of_root (hcontext ▸ hroot)]
  · rw [hiff, removed_of_staysInside hinside, removed_of_staysInside hinside', hcontext]
  · rw [hiff.mpr hremoved, Matcher.accepts_congr hmethod]

/-- Two ways to write a path inside an application. -/
theorem spellings_agree_inside :
    let r : Request := { method := .get, uri := "/app//admin/./users?page=2", contextPath := "/app" }
    let r' : Request := { r with uri := "/app/login/../admin/users" }
    NormalContext r.contextPath ∧ denoted r.uri = denoted r'.uri ∧ StaysInside r ∧ StaysInside r' ∧
      ofRequest r = ofRequest r' := by
  intro r r'
  have hnormal : NormalContext r.contextPath := normalContext_of_piece (by decide) (by decide)
  have hdenoted : denoted r.uri = denoted r'.uri := by decide +kernel
  have hinside : StaysInside r := ⟨"//admin/./users".toList, by decide +kernel, by decide +kernel⟩
  have hinside' : StaysInside r' := ⟨"/login/../admin/users".toList, by decide +kernel, by decide +kernel⟩
  obtain ⟨-, -, hagree, -⟩ := spellings_agree_iff r r' rfl hnormal hdenoted
  exact ⟨hnormal, hdenoted, hinside, hinside', hagree hinside hinside'⟩

/-- A slash in front of the context path hides it, so that a pattern for a path inside does not match any more. -/
theorem slash_hides_context :
    let r : Request := { method := .get, uri := "/app/admin", contextPath := "/app" }
    let r' : Request := { r with uri := "//app/admin" }
    NormalContext r.contextPath ∧ denoted r.uri = denoted r'.uri ∧
      ofRequest r = ⟨["admin"]⟩ ∧ ofRequest r' = ⟨["app", "admin"]⟩ ∧
      (Matcher.ofPattern "/admin/**" none).toOption.map
        (fun m => (m.accepts r (ofRequest r), m.accepts r' (ofRequest r'))) = some (true, false) := by
  intro r r'
  have hnormal : NormalContext r.contextPath := normalContext_of_piece (by decide) (by decide)
  exact ⟨hnormal, by decide +kernel, by decide +kernel, by decide +kernel,
    by decide +kernel⟩

end RequestPath

end AccessControl
