import Mathlib.Data.Bool.AllAny
import WorkflowAtlas.Proofs.EndpointStability

/-!
# Endpoints of URLs

Of an absolute URL only the path counts. The slash that it starts with is looked for **before** the query is cut off.
A URL with a path has its slash there, whatever its query holds. In a URL without one the search goes on into the
query, and what stands there from a slash on is taken for the path (`query_taken_for_path`).

**The law** (`Url.endpoint?_text`): the endpoint of a URL is that of its path, or without a path that of its query
from the first slash on, and there is none only where there is no such slash.
-/

namespace WorkflowAtlas.Http

open WorkflowAtlas.Text

/-! ## Texts that are read as they stand -/

/-- **A character that is kept** wherever it stands: no blank, and none that an interpolation opens with. -/
def IsKept (c : Char) : Prop :=
  isBlank c = false ∧ c ≠ '\x7b' ∧ c ≠ '\\'

instance : DecidablePred IsKept :=
  fun _ => inferInstanceAs (Decidable (_ ∧ _))

variable {cs : List Char}

theorem isFilled_of_isKept (kept : ∀ c ∈ cs, IsKept c) : IsFilled cs := by
  intro part isPart isInside
  cases isPart with
  | braces inside => exact (kept '\x7b' (isInside.subset (by simp))).2.1 rfl
  | dollar inside => exact (kept '\x7b' (isInside.subset (by simp))).2.1 rfl
  | parentheses inside => exact (kept '\\' (isInside.subset (by simp))).2.2 rfl

theorem last_of_isKept (kept : ∀ c ∈ cs, IsKept c) : ∀ c ∈ cs.getLast?, isBlank c = false :=
  fun c isLast => (kept c (List.mem_of_getLast? isLast)).1

/-- A path is read as it stands. -/
theorem endpoint?_path (slash : cs.head? = some '/') (kept : ∀ c ∈ cs, IsKept c) :
    endpoint? (String.ofList cs) = ofPath? cs := by
  obtain ⟨rest, rfl⟩ := List.head?_eq_some_iff.mp slash
  exact endpoint?_of_isFilled (isFilled_of_isKept kept) (last_of_isKept kept)

/-! ## URLs -/

/-- **A URL in its parts**. -/
structure Url where
  secure : Bool
  host : List Char
  path : List Char
  /-- The query and the fragment. -/
  query : List Char
  host_plain : ∀ c ∈ host, c ≠ '/' ∧ c ≠ '?' ∧ c ≠ '#'
  path_slash : path = [] ∨ path.head? = some '/'
  path_plain : ∀ c ∈ path, c ≠ '?' ∧ c ≠ '#'
  query_mark : query = [] ∨ query.head? = some '?' ∨ query.head? = some '#'
  kept : ∀ c ∈ host ++ (path ++ query), IsKept c

namespace Url

/-- The text in front of the host. -/
def scheme (secure : Bool) : List Char :=
  if secure then "https://".toList else "http://".toList

/-- The text of a URL. -/
def text (url : Url) : String :=
  String.ofList (scheme url.secure ++ (url.host ++ (url.path ++ url.query)))

/-- A URL is read from the first slash behind its scheme on. -/
theorem endpoint?_scheme (secure : Bool) (kept : ∀ c ∈ cs, IsKept c) :
    endpoint? (String.ofList (scheme secure ++ cs)) = ofPath? (cs.dropWhile (· != '/')) := by
  have schemeKept : ∀ c ∈ scheme secure, IsKept c := by
    cases secure with
    | false => exact List.all_iff_forall_prop.mp (by decide)
    | true => exact List.all_iff_forall_prop.mp (by decide)
  have allKept := List.forall_mem_append.mpr ⟨schemeKept, kept⟩
  have isLiteral : literalOf (String.ofList (scheme secure ++ cs)) = scheme secure ++ cs := by
    cases secure with
    | false => exact literalOf_eq (.inr rfl) (last_of_isKept allKept)
    | true => exact literalOf_eq (.inr rfl) (last_of_isKept allKept)
  rw [endpoint?_eq, isLiteral, (isFilled_of_isKept allKept).fillHoles_eq]
  cases secure with
  | false => rfl
  | true => rfl

variable (url : Url)

/-- No slash is found in the host. -/
theorem endpoint?_behind_host :
    endpoint? url.text = ofPath? ((url.path ++ url.query).dropWhile (· != '/')) := by
  rw [text, endpoint?_scheme url.secure url.kept, List.dropWhile_append_of_pos]
  exact fun c isChar => bne_iff_ne.mpr (url.host_plain c isChar).1

theorem beforeQuery_text : beforeQuery (url.path ++ url.query) = beforeQuery url.path := by
  have plain : ∀ c ∈ url.path, (c != '?' && c != '#') = true := by
    intro c isChar
    simp [url.path_plain c isChar]
  have atMark : beforeQuery url.query = [] := by
    rcases url.query_mark with isEmpty | isQuery | isFragment
    · rw [isEmpty]
      rfl
    · obtain ⟨rest, isText⟩ := List.head?_eq_some_iff.mp isQuery
      rw [isText]
      rfl
    · obtain ⟨rest, isText⟩ := List.head?_eq_some_iff.mp isFragment
      rw [isText]
      rfl
  calc beforeQuery (url.path ++ url.query)
    _ = url.path ++ beforeQuery url.query := List.takeWhile_append_of_pos plain
    _ = url.path := by rw [atMark, List.append_nil]
    _ = beforeQuery url.path := (List.takeWhile_eq_self_iff.mpr plain).symm

/-- A path is found before the query is looked at. -/
theorem endpoint?_of_path (hasPath : url.path ≠ []) : endpoint? url.text = endpoint? (String.ofList url.path) := by
  have slash := url.path_slash.resolve_left hasPath
  obtain ⟨rest, isPath⟩ := List.head?_eq_some_iff.mp slash
  have atSlash : (url.path ++ url.query).dropWhile (· != '/') = url.path ++ url.query := by rw [isPath]; rfl
  have pathKept : ∀ c ∈ url.path, IsKept c :=
    fun c isChar => url.kept c (List.mem_append_right _ (List.mem_append_left _ isChar))
  calc endpoint? url.text
    _ = ofPath? (url.path ++ url.query) := by rw [url.endpoint?_behind_host, atSlash]
    _ = ofPath? url.path := by rw [ofPath?_eq, ofPath?_eq, url.beforeQuery_text]
    _ = endpoint? (String.ofList url.path) := (endpoint?_path slash pathKept).symm

/-- Without a path the search goes on into the query. -/
theorem endpoint?_of_query (noPath : url.path = []) : endpoint? url.text =
    if '/' ∈ url.query then endpoint? (String.ofList (url.query.dropWhile (· != '/'))) else none := by
  rw [url.endpoint?_behind_host, noPath, List.nil_append]
  have found := head?_fromSlash url.query
  split
  · next hasSlash =>
    rw [if_pos hasSlash] at found
    have queryKept : ∀ c ∈ url.query.dropWhile (· != '/'), IsKept c := fun c isChar =>
      url.kept c (List.mem_append_right _ (List.mem_append_right _ ((List.dropWhile_suffix _).subset isChar)))
    exact (endpoint?_path found queryKept).symm
  · next noSlash =>
    rw [if_neg noSlash] at found
    rw [List.head?_eq_none_iff.mp found]
    rfl

/-- **The endpoint of a URL** is that of its path, or without one that of its query from the first slash on. -/
theorem endpoint?_text :
    (endpoint? url.text =
      if url.path ≠ [] then endpoint? (String.ofList url.path)
      else if '/' ∈ url.query then endpoint? (String.ofList (url.query.dropWhile (· != '/')))
      else none) ∧
    (endpoint? url.text = none ↔ url.path = [] ∧ '/' ∉ url.query) := by
  have isSome {cs : List Char} (slash : cs.head? = some '/') : endpoint? (String.ofList cs) ≠ none := by
    obtain ⟨rest, rfl⟩ := List.head?_eq_some_iff.mp slash
    exact Option.isSome_iff_ne_none.mp (endpoint?_isSome (by simp [startsWith]))
  by_cases hasPath : url.path = []
  · have isEndpoint := url.endpoint?_of_query hasPath
    refine ⟨by rw [isEndpoint, if_neg (not_not_intro hasPath)], ?_⟩
    rw [isEndpoint]
    split
    · next hasSlash =>
      have found := (head?_fromSlash url.query).trans (if_pos hasSlash)
      exact iff_of_false (isSome found) fun isNone => isNone.2 hasSlash
    · next noSlash => exact iff_of_true rfl ⟨hasPath, noSlash⟩
  · have isEndpoint := url.endpoint?_of_path hasPath
    refine ⟨by rw [isEndpoint, if_pos hasPath], ?_⟩
    rw [isEndpoint]
    exact iff_of_false (isSome (url.path_slash.resolve_left hasPath)) fun isNone => hasPath isNone.1

/-- A URL with a path, and a slash in its query too. -/
def chat : Url where
  secure := true
  host := "api.example.com:8080".toList
  path := "/v1/chat/".toList
  query := "?next=/home#top".toList
  host_plain := List.all_iff_forall_prop.mp (by decide)
  path_slash := by decide
  path_plain := List.all_iff_forall_prop.mp (by decide)
  query_mark := by decide
  kept := List.all_iff_forall_prop.mp (by decide)

theorem endpoint?_text_chat : chat.text = "https://api.example.com:8080/v1/chat/?next=/home#top" ∧
    endpoint? chat.text = endpoint? "/v1/chat/" ∧ endpoint? "/v1/chat/" = some "/v1/chat" :=
  ⟨by decide, chat.endpoint?_text.1, by decide +kernel⟩

/-- A URL without a path. -/
def login : Url where
  secure := true
  host := "example.com".toList
  path := []
  query := "?next=/home".toList
  host_plain := List.all_iff_forall_prop.mp (by decide)
  path_slash := by decide
  path_plain := List.all_iff_forall_prop.mp (by decide)
  query_mark := by decide
  kept := List.all_iff_forall_prop.mp (by decide)

/-- The address that a query asks to go on to is taken for the path of a URL that has none. -/
theorem query_taken_for_path : login.text = "https://example.com?next=/home" ∧ login.path = [] ∧
    endpoint? login.text = some "/home" := by
  decide +kernel

end Url

end WorkflowAtlas.Http
