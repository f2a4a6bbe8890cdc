import Mathlib.Data.List.Basic

/-!
# The List and Map Variables of the Config

`GetValues` (package `config`) reads each variable of the bundler from the environment as
text. A list, such as the builder URLs or the alt-mempool ids, is written with its items
separated by `,` and read by `envArrayToStringSlice`. A map, the OTEL collector's headers, is
written as `key=value` pairs separated by `&` and read by `envKeyValStringToMap`. Its loop
stops (`break`) at the first piece that does not split on `=` into exactly two parts, and it
keeps that piece and every later one out of the map.

## Conventions

* A Go string is a `String` read through its characters. `strings.Split` with a separator of
  one character is `List.splitOn` on those characters (`n` separators give `n + 1` pieces,
  and the empty string gives one empty piece). `strings.Join`, which writes what `Split`
  reads back, is `List.intercalate`.
* A Go `map[string]string` built by writes and read by key is its lookup function; a key
  never written reads as `none`.

## Main results

* `envArrayToStringSlice_stringsJoin`: a list of items free of `,` is read back from its
  text, except the list `[""]`, whose text is empty and reads back as no item.
* `envKeyValStringToMap_stringsJoin`: the pairs read back from their text give each key the
  value of its last pair.
* `envKeyValStringToMap_malformed`: a piece that is not one `key=value` pair, such as a value
  holding `=`, drops itself and every piece after it.
-/

namespace AiopsBundler

/-! ### Splitting and joining -/

/-- `strings.Split(s, sep)` for a separator of one character. -/
def stringsSplit (s : String) (sep : Char) : List String :=
  (s.toList.splitOn sep).map String.mk

/-- `strings.Join(elems, sep)` for a separator of one character. -/
def stringsJoin (sep : Char) (elems : List String) : String :=
  String.mk ([sep].intercalate (elems.map String.toList))

@[simp] theorem stringsJoin_toList (sep : Char) (elems : List String) :
    (stringsJoin sep elems).toList = [sep].intercalate (elems.map String.toList) :=
  rfl

theorem stringsJoin_pair_toList (sep : Char) (a b : String) :
    (stringsJoin sep [a, b]).toList = a.toList ++ sep :: b.toList := by
  simp [stringsJoin, List.intercalate]

/-- **Split reads back what Join wrote**, when no item holds the separator and there is an
item. -/
theorem stringsSplit_stringsJoin (sep : Char) {elems : List String}
    (h : ∀ e ∈ elems, sep ∉ e.toList) (hne : elems ≠ []) :
    stringsSplit (stringsJoin sep elems) sep = elems := by
  rw [stringsSplit, stringsJoin_toList, List.splitOn_intercalate _ sep (by simpa using h)
    (by simpa using hne), List.map_map]
  exact List.map_id'' (fun _ => rfl) elems

/-- The joined text is empty exactly for no item, or for one empty item. -/
theorem stringsJoin_eq_empty {sep : Char} {elems : List String} :
    stringsJoin sep elems = "" ↔ elems = [] ∨ elems = [""] := by
  rw [String.ext_iff]
  show [sep].intercalate (elems.map String.toList) = [] ↔ _
  match elems with
  | [] => simp [List.intercalate]
  | [e] => simp [List.intercalate, String.ext_iff, String.toList]
  | a :: b :: rest => simp [List.intercalate, List.intersperse_cons_cons]

/-! ### Lists -/

/-- `envArrayToStringSlice`: no item for the empty string, else the pieces between the
commas. -/
def envArrayToStringSlice (s : String) : List String :=
  if s = "" then [] else stringsSplit s ','

/-- **A list variable reads back**: the items of a list free of `,` are read back from their
text, unless the list is the one empty item, whose text is empty. -/
theorem envArrayToStringSlice_stringsJoin {elems : List String}
    (h : ∀ e ∈ elems, ',' ∉ e.toList) (hne : elems ≠ [""]) :
    envArrayToStringSlice (stringsJoin ',' elems) = elems := by
  unfold envArrayToStringSlice
  split_ifs with he
  · exact ((stringsJoin_eq_empty.1 he).resolve_right hne).symm
  · exact stringsSplit_stringsJoin ',' h fun h0 => he (stringsJoin_eq_empty.2 (.inl h0))

/-- Two builder URLs read back from their text. -/
theorem envArrayToStringSlice_two_urls :
    (∀ e ∈ ["http://a", "http://b"], ',' ∉ e.toList) ∧ ["http://a", "http://b"] ≠ [""] ∧
      envArrayToStringSlice (stringsJoin ',' ["http://a", "http://b"]) =
        ["http://a", "http://b"] :=
  ⟨by decide, by decide, envArrayToStringSlice_stringsJoin (by decide) (by decide)⟩

example : envArrayToStringSlice (stringsJoin ',' [""]) = [] := by decide

/-! ### Maps -/

/-- The loop of `envKeyValStringToMap` over the pieces, on the map written so far: each
piece is split on `=` into a key and a value written into the map, until the first piece that
does not split into exactly two parts. -/
def envKeyValStringToMap.loop :
    List String → (String → Option String) → String → Option String
  | [], out => out
  | pair :: pairs, out =>
    match stringsSplit pair '=' with
    | [k, v] => loop pairs (Function.update out k (some v))
    | _ => out

/-- `envKeyValStringToMap`: the loop over the pieces of `s` between the `&`s, from the empty
map; a later pair of a key overwrites an earlier one. -/
def envKeyValStringToMap (s : String) : String → Option String :=
  envKeyValStringToMap.loop (stringsSplit s '&') fun _ => none

/-- The loop stops at a piece that is not one pair: what follows it is never read. -/
theorem loop_append_cons_of_malformed (pairs post : List String) {bad : String}
    (hbad : (stringsSplit bad '=').length ≠ 2) (out : String → Option String) :
    envKeyValStringToMap.loop (pairs ++ bad :: post) out =
      envKeyValStringToMap.loop pairs out := by
  induction pairs generalizing out with
  | nil =>
    simp only [List.nil_append, envKeyValStringToMap.loop]
    split
    · simp_all
    · rfl
  | cons p pairs ih =>
    simp only [List.cons_append, envKeyValStringToMap.loop]
    split
    · exact ih _
    · rfl

/-- On the text of well-formed pairs, the loop writes the pairs into the map in order. -/
theorem loop_keyValPairs (kvs : List (String × String))
    (h : ∀ kv ∈ kvs, '=' ∉ kv.1.toList ∧ '=' ∉ kv.2.toList) (out : String → Option String) :
    envKeyValStringToMap.loop (kvs.map fun kv => stringsJoin '=' [kv.1, kv.2]) out =
      kvs.foldl (fun (m : String → Option String) kv => Function.update m kv.1 (some kv.2))
        out := by
  induction kvs generalizing out with
  | nil => rfl
  | cons kv kvs ih =>
    have hsplit : stringsSplit (stringsJoin '=' [kv.1, kv.2]) '=' = [kv.1, kv.2] :=
      stringsSplit_stringsJoin '=' (by simpa using h kv (List.mem_cons_self _ _)) (by simp)
    simp only [List.map_cons, envKeyValStringToMap.loop, hsplit, List.foldl_cons]
    exact ih (fun kv' h' => h kv' (List.mem_cons_of_mem _ h')) _

/-- Writing pairs into a map in order leaves at each key the value of its last pair. -/
theorem foldl_update_apply (key : String) :
    ∀ (kvs : List (String × String)) (out : String → Option String),
      kvs.foldl (fun (m : String → Option String) kv => Function.update m kv.1 (some kv.2)) out
        key = (kvs.reverse.lookup key).or (out key)
  | [], out => rfl
  | kv :: kvs, out => by
    rw [List.foldl_cons, foldl_update_apply key kvs, List.reverse_cons, List.lookup_append,
      Option.or_assoc, Function.update_apply]
    obtain ⟨k, v⟩ := kv
    by_cases hk : key = k
    · simp [hk]
    · have hbeq : (key == k) = false := by simpa using hk
      simp [List.lookup_cons, hk, hbeq]

/-- **The headers read back**: for `key=value` pairs whose keys and values hold neither `&`
nor `=`, the map read from their text gives each key the value of its last pair, and no
value to a key without a pair. -/
theorem envKeyValStringToMap_stringsJoin (kvs : List (String × String))
    (h : ∀ kv ∈ kvs, '&' ∉ kv.1.toList ∧ '=' ∉ kv.1.toList ∧ '&' ∉ kv.2.toList ∧
      '=' ∉ kv.2.toList) (key : String) :
    envKeyValStringToMap (stringsJoin '&' (kvs.map fun kv => stringsJoin '=' [kv.1, kv.2])) key =
      kvs.reverse.lookup key := by
  by_cases hne : kvs = []
  · subst hne; rfl
  · have hamp : ∀ e ∈ kvs.map (fun kv => stringsJoin '=' [kv.1, kv.2]), '&' ∉ e.toList := by
      simp only [List.mem_map]
      rintro _ ⟨kv, hkv, rfl⟩
      rw [stringsJoin_pair_toList, List.mem_append, List.mem_cons, not_or, not_or]
      exact ⟨(h kv hkv).1, by decide, (h kv hkv).2.2.1⟩
    rw [envKeyValStringToMap, stringsSplit_stringsJoin '&' hamp (by simpa using hne),
      loop_keyValPairs kvs (fun kv hkv => ⟨(h kv hkv).2.1, (h kv hkv).2.2.2⟩), foldl_update_apply]
    exact Option.or_none

/-- A header written twice keeps its last value. -/
theorem envKeyValStringToMap_last_value :
    (∀ kv ∈ [("a", "1"), ("b", "2"), ("a", "3")], '&' ∉ kv.1.toList ∧ '=' ∉ kv.1.toList ∧
      '&' ∉ kv.2.toList ∧ '=' ∉ kv.2.toList) ∧
    envKeyValStringToMap (stringsJoin '&' ([("a", "1"), ("b", "2"), ("a", "3")].map
      fun kv => stringsJoin '=' [kv.1, kv.2])) "a" = some "3" :=
  ⟨by decide, envKeyValStringToMap_stringsJoin _ (by decide) "a"⟩

/-- **A malformed piece ends the parse**: a piece of the text that does not split on `=` into
exactly two parts (a value holding `=`, as base64 padding does, or a piece with no `=`)
drops itself and every piece after it, well-formed or not. -/
theorem envKeyValStringToMap_malformed (pairs post : List String) {bad : String}
    (hamp : ∀ p ∈ pairs ++ bad :: post, '&' ∉ p.toList)
    (hbad : (stringsSplit bad '=').length ≠ 2) :
    envKeyValStringToMap (stringsJoin '&' (pairs ++ bad :: post)) =
      envKeyValStringToMap (stringsJoin '&' pairs) := by
  rw [envKeyValStringToMap, stringsSplit_stringsJoin '&' hamp (by simp),
    loop_append_cons_of_malformed _ _ hbad]
  by_cases hne : pairs = []
  · subst hne; rfl
  · rw [envKeyValStringToMap,
      stringsSplit_stringsJoin '&' (fun p hp => hamp p (List.mem_append_left _ hp)) hne]

/-- A basic-auth header whose base64 value ends in `==`: it and the header after it are
dropped. -/
theorem envKeyValStringToMap_base64_value :
    (∀ p ∈ ["a=1"] ++ "Authorization=Basic dXNlcg==" :: ["b=2"], '&' ∉ p.toList) ∧
    (stringsSplit "Authorization=Basic dXNlcg==" '=').length ≠ 2 ∧
    envKeyValStringToMap (stringsJoin '&' (["a=1"] ++ "Authorization=Basic dXNlcg==" :: ["b=2"])) =
      envKeyValStringToMap (stringsJoin '&' ["a=1"]) :=
  ⟨by decide, by decide, envKeyValStringToMap_malformed _ _ (by decide) (by decide)⟩

example : envKeyValStringToMap "a=1&Authorization=Basic dXNlcg==&b=2" "b" = none := by decide

end AiopsBundler
