import Mathlib.Data.List.DropRight
import Mathlib.Data.List.Forall2
import WorkflowAtlas.Http.Matching
import WorkflowAtlas.Proofs.PatternText
import WorkflowAtlas.Proofs.TextCuts

/-!
# Routes match segment by segment

A route with parameters is written as a pattern, with escaped text for its other segments, and the pattern is
searched in the path of a request. The pattern always is one, whatever characters the route has
(`parse?_routePattern`), and what it finds has no trace of patterns left: the paths have equally many segments, a
parameter **faces** a segment that is not empty, and every other segment faces itself
(`isFoundIn_route`). No segment holds a slash, so a parameter never goes beyond its own.

**The law** (`matchPaths_segmentwise`): which pairs of paths match, and how surely, is said by their segments, with
trailing slashes left out of account.
-/

namespace WorkflowAtlas.Http

open WorkflowAtlas.Text

/-! ## Parameters -/

/-- **A parameter** starts with `:` or stands in braces. -/
def IsParameter (segment : List Char) : Prop :=
  segment.head? = some ':' ∨ ∃ name, segment = '\x7b' :: (name ++ ['\x7d'])

theorem isParameter_iff {segment : List Char} : isParameter segment = true ↔ IsParameter segment := by
  simp only [isParameter, IsParameter, Bool.or_eq_true, Bool.and_eq_true, beq_iff_eq]
  refine or_congr_right ⟨?_, ?_⟩
  · rintro ⟨isFirst, isLast⟩
    obtain ⟨front, rfl⟩ := List.getLast?_eq_some_iff.mp isLast
    cases front with
    | nil => cases isFirst
    | cons c name =>
      obtain rfl : c = '\x7b' := by simpa using isFirst
      exact ⟨name, rfl⟩
  · rintro ⟨name, rfl⟩
    exact ⟨rfl, List.getLast?_concat (l := '\x7b' :: name)⟩

instance : DecidablePred IsParameter :=
  fun _ => decidable_of_iff _ isParameter_iff

/-- **A segment of a route faces a segment of a path**: a parameter one that is not empty, any other itself. -/
structure Faces (segment piece : List Char) : Prop where
  parameter : IsParameter segment → piece ≠ []
  same : ¬ IsParameter segment → piece = segment

instance (segment piece : List Char) : Decidable (Faces segment piece) :=
  decidable_of_iff ((IsParameter segment → piece ≠ []) ∧ (¬ IsParameter segment → piece = segment))
    ⟨fun faces => ⟨faces.1, faces.2⟩, fun faces => ⟨faces.parameter, faces.same⟩⟩

/-! ## The pattern of a route -/

/-- Every character but a slash. -/
def notSlash : CharSet :=
  .other (.union (.single '/') .empty)

/-- What a segment is read as. -/
def segmentItems (segment : List Char) : List Regex :=
  if isParameter segment then [.oneOrMore (.one notSlash)] else segment.map .char

/-- What a route is read as. -/
def routeItems : List (List Char) → List Regex
  | [] => []
  | [segment] => segmentItems segment
  | segment :: rest => segmentItems segment ++ .char '/' :: routeItems rest

theorem spells_parameter : Regex.Spells "[^/]+".toList [.oneOrMore (.one notSlash)] := by
  refine ⟨by decide, 2, by decide, fun fuel read rest noMark => ?_⟩
  have noPreference : Regex.skipPreference rest = rest := by
    cases rest with
    | nil => rfl
    | cons c rest =>
      unfold Regex.skipPreference
      split
      · next isMark => simp [isMark] at noMark
      · rfl
  calc Regex.alternatives? (fuel + 2) {} [] [] read ("[^/]+".toList ++ rest)
      = Regex.alternatives? fuel {} [] [] (some (.oneOrMore (.one notSlash)) :: read) (Regex.skipPreference rest) := rfl
    _ = Regex.alternatives? fuel {} [] [] (some (.oneOrMore (.one notSlash)) :: read) rest := by rw [noPreference]

theorem spells_segmentPattern (segment : List Char) : Regex.Spells (segmentPattern segment) (segmentItems segment) := by
  unfold segmentPattern segmentItems
  split
  · exact spells_parameter
  · exact Regex.spells_escape segment

theorem spells_segments : ∀ segments : List (List Char),
    Regex.Spells (joinWith ['/'] (segments.map segmentPattern)) (routeItems segments)
  | [] => .nil
  | [segment] => spells_segmentPattern segment
  | segment :: second :: rest => by
    have slash : Regex.Spells ['/'] [.char '/'] := Regex.spells_plain rfl
    have whole := (spells_segmentPattern segment).append (slash.append (spells_segments (second :: rest)))
    rw [← List.append_assoc] at whole
    exact whole

/-- **The pattern of a route is one**, whatever characters the route has. -/
theorem parse?_routePattern (segments : List (List Char)) : Regex.parse? (routePattern segments) =
    some (.sequence (.look .textStart :: (routeItems segments ++ [.look .textEnd]))) := by
  have start : Regex.Spells ['^'] [.look .textStart] := .step (by simp) (by simp) fun _ _ _ => rfl
  have ending : Regex.Spells ['$'] [.look .textEnd] := .step (by simp) (by simp) fun _ _ _ => rfl
  exact Regex.parse?_of_spells (start.append ((spells_segments segments).append ending))

/-! ## What a route finds -/

variable {before after : Option Char} {segment text : List Char} {segments : List (List Char)}

theorem contains_notSlash {c : Char} : notSlash.contains c = true ↔ c ≠ '/' := by
  have isSlash : (CharSet.single '/').contains c = true ↔ c = '/' := Regex.contains_single
  simp only [notSlash, CharSet.contains, Bool.or_false, Bool.not_eq_true', ← Bool.not_eq_true, isSlash]

/-- What is read of a segment matches what the segment faces, without a slash. -/
theorem matches_segmentItems (noSlash : '/' ∉ segment) :
    Regex.Matches before after (.sequence (segmentItems segment)) text ↔ Faces segment text ∧ '/' ∉ text := by
  unfold segmentItems
  split
  · next parameter =>
    have isParameter := isParameter_iff.mp parameter
    have inside : (∀ c ∈ text, notSlash.contains c = true) ↔ '/' ∉ text := by
      simp only [contains_notSlash]
      exact ⟨fun all isSlash => all '/' isSlash rfl, fun absent c isChar isSlash => absent (isSlash ▸ isChar)⟩
    have single : Regex.sequence [.oneOrMore (.one notSlash)] = .oneOrMore (.one notSlash) := rfl
    rw [single, Regex.matches_oneOrMore_one, inside]
    exact and_congr_left fun _ => ⟨fun nonempty => ⟨fun _ => nonempty, fun no => absurd isParameter no⟩,
      fun faces => faces.parameter isParameter⟩
  · next noParameter =>
    have isNone : ¬ IsParameter segment := fun isParameter => noParameter (isParameter_iff.mpr isParameter)
    have isLiteral : Regex.sequence (segment.map .char) = .literal segment := rfl
    rw [isLiteral, Regex.matches_literal]
    constructor
    · rintro rfl
      exact ⟨⟨fun isParameter => absurd isParameter isNone, fun _ => rfl⟩, noSlash⟩
    · rintro ⟨faces, _⟩
      exact faces.same isNone

theorem notMem_of_mem_pieces {piece : List Char} (isPiece : piece ∈ pieces (· == '/') text) : '/' ∉ piece :=
  fun isSlash => by simpa using unmarked_of_mem_pieces isPiece '/' isSlash

theorem pieces_of_notMem (noSlash : '/' ∉ text) : pieces (· == '/') text = [text] :=
  pieces_of_unmarked fun _ isChar => beq_eq_false_iff_ne.mpr fun isSlash => noSlash (isSlash ▸ isChar)

/-- The last segment faces the whole of what is left, which has no slash. -/
theorem forall₂_faces_singleton :
    List.Forall₂ Faces [segment] (pieces (· == '/') text) ↔ Faces segment text ∧ '/' ∉ text := by
  constructor
  · intro all
    obtain ⟨piece, others, faces, isLast, split⟩ := List.forall₂_cons_left_iff.mp all
    obtain rfl := List.forall₂_nil_left_iff.mp isLast
    rw [eq_of_pieces_eq split]
    exact ⟨faces, notMem_of_mem_pieces (split ▸ List.mem_singleton_self piece)⟩
  · rintro ⟨faces, noSlash⟩
    rw [pieces_of_notMem noSlash]
    exact .cons faces .nil

/-- An earlier segment faces what stands before the first slash, and the others what stands behind it. -/
theorem forall₂_faces_cons {second : List Char} :
    List.Forall₂ Faces (segment :: second :: segments) (pieces (· == '/') text) ↔
      ∃ piece behind, text = piece ++ '/' :: behind ∧ (Faces segment piece ∧ '/' ∉ piece) ∧
        List.Forall₂ Faces (second :: segments) (pieces (· == '/') behind) := by
  constructor
  · intro all
    obtain ⟨piece, others, faces, allOthers, split⟩ := List.forall₂_cons_left_iff.mp all
    obtain ⟨next, more, _, _, rfl⟩ := List.forall₂_cons_left_iff.mp allOthers
    obtain ⟨mark, behind, isMark, rfl, splitBehind⟩ := exists_of_pieces_eq split
    obtain rfl : mark = '/' := eq_of_beq isMark
    exact ⟨piece, behind, rfl, ⟨faces, notMem_of_mem_pieces (split ▸ List.mem_cons_self)⟩, splitBehind ▸ allOthers⟩
  · rintro ⟨piece, behind, rfl, ⟨faces, noSlash⟩, others⟩
    rw [pieces_append_mark rfl, pieces_of_notMem noSlash]
    exact .cons faces others

/-- **What is read of a route matches the paths whose segments it faces.** -/
theorem matches_routeItems (nonempty : segments ≠ []) (noSlash : ∀ segment ∈ segments, '/' ∉ segment) :
    Regex.Matches before after (.sequence (routeItems segments)) text ↔
      List.Forall₂ Faces segments (pieces (· == '/') text) := by
  induction segments generalizing before text with
  | nil => exact absurd rfl nonempty
  | cons segment rest ih =>
    obtain ⟨noSlashHere, noSlashLater⟩ := List.forall_mem_cons.mp noSlash
    cases rest with
    | nil => rw [routeItems, matches_segmentItems noSlashHere, forall₂_faces_singleton]
    | cons second rest =>
      have isRoute : routeItems (segment :: second :: rest) =
          segmentItems segment ++ .char '/' :: routeItems (second :: rest) := rfl
      rw [isRoute, Regex.matches_sequence_append, forall₂_faces_cons]
      constructor
      · rintro ⟨front, back, rfl, first, others⟩
        obtain ⟨mark, behind, rfl, isSlash, others⟩ := Regex.matches_sequence_cons.mp others
        obtain rfl := Regex.matches_char.mp isSlash
        exact ⟨front, behind, rfl, (matches_segmentItems noSlashHere).mp first,
          (ih (List.cons_ne_nil second rest) noSlashLater).mp others⟩
      · rintro ⟨piece, behind, rfl, first, others⟩
        refine ⟨piece, '/' :: behind, rfl, (matches_segmentItems noSlashHere).mpr first, ?_⟩
        exact Regex.matches_sequence_cons.mpr ⟨['/'], behind, rfl, Regex.matches_char.mpr rfl,
          (ih (List.cons_ne_nil second rest) noSlashLater).mpr others⟩

/-- **A route is found in the paths whose segments it faces.** -/
theorem isFoundIn_route (path : List Char) :
    (Regex.sequence (.look .textStart :: (routeItems (pieces (· == '/') path) ++ [.look .textEnd]))).isFoundIn
        (String.ofList text) = true ↔
      List.Forall₂ Faces (pieces (· == '/') path) (pieces (· == '/') text) :=
  Regex.isFoundIn_whole.trans (matches_routeItems (pieces_ne_nil path) fun _ => notMem_of_mem_pieces)

/-! ## Trailing slashes -/

theorem trimSlashes_append (path : String) (count : Nat) :
    trimSlashes (path ++ String.ofList (List.replicate count '/')) = trimSlashes path := by
  have dropped : dropEndWhile (· == '/') (path.toList ++ List.replicate count '/') =
      dropEndWhile (· == '/') path.toList := by
    unfold dropEndWhile
    rw [List.reverse_append, List.reverse_replicate, List.dropWhile_append_of_pos]
    intro c isSlash
    rw [List.eq_of_mem_replicate isSlash]
    rfl
  rw [trimSlashes, String.toList_append, String.toList_ofList, dropped, trimSlashes]

/-! ## The law -/

/-- The segments of a path, without its trailing slashes. -/
def segmentsOf (path : String) : List (List Char) :=
  pieces (· == '/') (trimSlashes path)

/-- **Two paths match up to parameters**: the route has one, and its segments face those of the request. -/
structure Fits (route request : String) : Prop where
  parameter : ∃ segment ∈ segmentsOf route, IsParameter segment
  segments : List.Forall₂ Faces (segmentsOf route) (segmentsOf request)

instance (route request : String) : Decidable (Fits route request) :=
  decidable_of_iff ((∃ segment ∈ segmentsOf route, IsParameter segment) ∧
      List.Forall₂ Faces (segmentsOf route) (segmentsOf request))
    ⟨fun fits => ⟨fits.1, fits.2⟩, fun fits => ⟨fits.parameter, fits.segments⟩⟩

variable (route request routeVerb requestVerb : String)

/-- The pattern of a route is searched exactly where the route has a parameter. -/
theorem fits_iff {route request : String} : Fits route request ↔ (segmentsOf route).any isParameter = true ∧
    (Regex.sequence (.look .textStart :: (routeItems (segmentsOf route) ++ [.look .textEnd]))).isFoundIn
      (String.ofList (trimSlashes request)) = true := by
  rw [segmentsOf, isFoundIn_route]
  simp only [List.any_eq_true, isParameter_iff]
  exact ⟨fun fits => ⟨fits.parameter, fits.segments⟩, fun fits => ⟨fits.1, fits.2⟩⟩

/-- **A match is told by the segments**: nothing without the same verb, exact for equal paths, fuzzy for a route that
fits, nothing else; and trailing slashes never change it. -/
theorem matchPaths_segmentwise :
    (matchPaths route request routeVerb requestVerb =
      if sameButCase routeVerb requestVerb = false then none
      else if trimSlashes route = trimSlashes request then some .exact
      else if Fits route request then some .fuzzy
      else none) ∧
    ∀ after afterRequest : Nat,
      matchPaths (route ++ String.ofList (List.replicate after '/'))
          (request ++ String.ofList (List.replicate afterRequest '/')) routeVerb requestVerb =
        matchPaths route request routeVerb requestVerb := by
  constructor
  · unfold matchPaths
    simp only [Bool.not_eq_true', parse?_routePattern, fits_iff, segmentsOf]
    split
    · rfl
    · split
      · rfl
      · split
        · next parameter => simp only [parameter, true_and]
        · next noParameter => exact (if_neg fun fits => noParameter fits.1).symm
  · intro after afterRequest
    simp only [matchPaths, trimSlashes_append]

/-- A dot of a route stands for itself, not for any character. -/
example : matchPaths "/v1.0/users/:id/" "/v1.0/users/a b" "get" "GET" = some .fuzzy ∧
    matchPaths "/v1.0/users/:id" "/v1x0/users/42" "get" "GET" = none := by
  decide +kernel

end WorkflowAtlas.Http
