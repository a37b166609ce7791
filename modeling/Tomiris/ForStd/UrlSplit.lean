import Mathlib.Data.List.DropRight

/-!
# Splitting a URL

Python's `urllib.parse.urlsplit` on lists of characters: leading blanks are dropped and
tabs and line breaks removed, the scheme ends with the first colon, the network location
with the first slash, question mark or number sign, and what is left is cut at the first
number sign and then at the first question mark. The parts of the network location are
read as the properties of a `SplitResult` do.

Many programs take a URL that names an origin, strip the slashes at its end and append the
path of a request. `urlsplit_request` says what the target then splits into, and when this
is the path that was appended.
-/

namespace UrlSplit

/-! ## The function -/

/-- What depends on the tables of Unicode. -/
structure Tables where
  /-- `str.lower`. -/
  lower : List Char → List Char
  /-- The brackets of a network location are in order, and no character of it normalises to a
      delimiter. -/
  netlocOk : List Char → Bool

/-- `_WHATWG_C0_CONTROL_OR_SPACE`. -/
def blank (c : Char) : Bool := c.toNat ≤ 32

/-- `_UNSAFE_URL_BYTES_TO_REMOVE`. -/
def removed (c : Char) : Bool := c == '\t' || c == '\r' || c == '\n'

/-- `scheme_chars`. -/
def schemeChar (c : Char) : Bool := c.isAlphanum || c == '+' || c == '-' || c == '.'

/-- What ends a network location. -/
def delimiter (c : Char) : Bool := c == '/' || c == '?' || c == '#'

/-- The characters that are split. -/
def cleaned (url : List Char) : List Char := (url.dropWhile blank).filter (!removed ·)

/-- `l.partition(c)` without the separator. -/
def cut (c : Char) (l : List Char) : List Char × List Char :=
  (l.takeWhile (· != c), (l.dropWhile (· != c)).tail)

/-- The scheme in lower case and what follows its colon. -/
def splitScheme (l : List Char) : List Char × List Char :=
  if ':' ∈ l ∧ l.head?.any Char.isAlpha = true ∧ (cut ':' l).1.all schemeChar = true then
    ((cut ':' l).1.map Char.toLower, (cut ':' l).2)
  else ([], l)

/-- The network location and what follows it. -/
def splitNetloc : List Char → List Char × List Char
  | '/' :: '/' :: l => (l.takeWhile (!delimiter ·), l.dropWhile (!delimiter ·))
  | l => ([], l)

/-- The five parts of a URL. -/
structure Parts where
  scheme : List Char
  netloc : List Char
  path : List Char
  query : List Char
  fragment : List Char

/-- The parts of a URL without the characters that are dropped. -/
def split (l : List Char) : Parts :=
  let (scheme, l) := splitScheme l
  let (netloc, l) := splitNetloc l
  -- the fragment first: a question mark behind the number sign belongs to it
  let (l, fragment) := cut '#' l
  let (path, query) := cut '?' l
  { scheme, netloc, path, query, fragment }

/-- `urlsplit`; `none` is a `ValueError`. -/
def urlsplit (t : Tables) (url : List Char) : Option Parts :=
  let parts := split (cleaned url)
  if parts.netloc = [] ∨ t.netlocOk parts.netloc = true then some parts else none

/-! ### The network location -/

/-- `_userinfo`. -/
def userinfo (netloc : List Char) : Option (List Char) × Option (List Char) :=
  if '@' ∈ netloc then
    let info := (netloc.rdropWhile (· != '@')).dropLast
    (some (cut ':' info).1, if ':' ∈ info then some (cut ':' info).2 else none)
  else (none, none)

/-- `_hostinfo`: the host and the text of the port. -/
def hostinfo (netloc : List Char) : List Char × List Char :=
  let info := netloc.rtakeWhile (· != '@')
  if '[' ∈ info then
    let (host, rest) := cut ']' (cut '[' info).2
    (host, (cut ':' rest).2)
  else cut ':' info

/-- `hostname`. The zone of an address keeps its case. -/
def hostname (t : Tables) (netloc : List Char) : Option (List Char) :=
  let host := (hostinfo netloc).1
  if host = [] then none
  else some (t.lower (host.takeWhile (· != '%')) ++ host.dropWhile (· != '%'))

/-- `port`; `none` is a `ValueError`. -/
def port (netloc : List Char) : Option (Option Nat) :=
  let text := (hostinfo netloc).2
  if text = [] then some none
  -- `int` reads at most 4300 digits
  else if text.all Char.isDigit = true ∧ text.length ≤ 4300 ∧
      Nat.ofDigitChars 10 text 0 ≤ 65535 then
    some (some (Nat.ofDigitChars 10 text 0))
  else none

/-- A URL with a host has a network location. -/
theorem netloc_ne_nil_of_hostname {t : Tables} {netloc : List Char}
    (h : hostname t netloc ≠ none) : netloc ≠ [] := by
  rintro rfl
  exact h rfl

/-! ## How a URL is spelled -/

/-- A scheme as it stands in a URL. -/
def IsScheme (s : List Char) : Prop := s.head?.any Char.isAlpha = true ∧ s.all schemeChar = true

/-- `l` is the scheme `s`, a colon, two slashes, the network location `n` and `rest`. -/
structure Spelled (l s n rest : List Char) : Prop where
  eq : l = s ++ ':' :: '/' :: '/' :: (n ++ rest)
  scheme : IsScheme s
  netloc : ∀ c ∈ n, delimiter c = false
  rest : rest.head?.all delimiter = true

/-- A text is cut at the first separator. -/
theorem cut_append {c : Char} {a b : List Char} (h : c ∉ a) : cut c (a ++ c :: b) = (a, b) := by
  have hall : ∀ d ∈ a, (d != c) = true := fun d hd => by
    simp only [bne_iff_ne]
    exact fun heq => h (heq ▸ hd)
  simp [cut, List.takeWhile_append_of_pos hall, List.dropWhile_append_of_pos hall]

/-- A text without the separator is not cut. -/
theorem cut_of_not_mem {c : Char} {a : List Char} (h : c ∉ a) : cut c a = (a, []) := by
  have hall : ∀ d ∈ a, (d != c) = true := fun d hd => by
    simp only [bne_iff_ne]
    exact fun heq => h (heq ▸ hd)
  simp [cut, List.takeWhile_eq_self_iff.mpr hall, List.dropWhile_eq_nil_iff.mpr hall]

/-- There is no separator before the cut. -/
theorem not_mem_cut (c : Char) (l : List Char) : c ∉ (cut c l).1 := by
  intro h
  have hne := List.mem_takeWhile_imp h
  simp at hne

/-- Two ways for a cut to end: without a separator, or in front of the first one. -/
theorem cut_cases (c : Char) (l : List Char) :
    c ∉ l ∧ cut c l = (l, []) ∨ ∃ a b, c ∉ a ∧ l = a ++ c :: b ∧ cut c l = (a, b) := by
  by_cases h : c ∈ l
  · obtain ⟨a, b, rfl, hnot⟩ := List.eq_append_cons_of_mem h
    exact .inr ⟨a, b, hnot, rfl, cut_append hnot⟩
  · exact .inl ⟨h, cut_of_not_mem h⟩

/-- There is no colon in a scheme. -/
theorem IsScheme.colon_not_mem {s : List Char} (h : IsScheme s) : ':' ∉ s := by
  intro hmem
  have hchar := List.all_eq_true.mp h.2 _ hmem
  revert hchar
  decide

/-- A scheme before a colon is split off, in lower case. -/
theorem splitScheme_append {s rest : List Char} (h : IsScheme s) :
    splitScheme (s ++ ':' :: rest) = (s.map Char.toLower, rest) := by
  have hhead : (s ++ ':' :: rest).head?.any Char.isAlpha = true := by
    cases s with
    | nil => exact absurd h.1 (by decide)
    | cons c s => exact h.1
  unfold splitScheme
  rw [cut_append h.colon_not_mem, if_pos ⟨by simp, hhead, h.2⟩]

/-- What is split off as a scheme stood before a colon. -/
theorem splitScheme_spelled {l : List Char} (h : (splitScheme l).1 ≠ []) :
    ∃ s, IsScheme s ∧ l = s ++ ':' :: (splitScheme l).2 ∧ (splitScheme l).1 = s.map Char.toLower := by
  unfold splitScheme at h ⊢
  split
  · rename_i hscheme
    obtain ⟨hmem, hhead, hall⟩ := hscheme
    -- cut at the first colon, behind a letter
    rcases cut_cases ':' l with ⟨hnot, -⟩ | ⟨a, b, -, rfl, hcut⟩
    · exact absurd hmem hnot
    · rw [hcut] at hall ⊢
      refine ⟨a, ⟨?_, hall⟩, rfl, rfl⟩
      cases a with
      | nil =>
        have hcolon : Option.any Char.isAlpha (some ':') = true := hhead
        revert hcolon
        decide
      | cons c a => exact hhead
  · rename_i hscheme
    rw [if_neg hscheme] at h
    exact absurd rfl h

/-- What stands between `//` and the next delimiter is the network location. -/
theorem splitNetloc_append {n rest : List Char} (hn : ∀ c ∈ n, delimiter c = false)
    (hrest : rest.head?.all delimiter = true) :
    splitNetloc ('/' :: '/' :: (n ++ rest)) = (n, rest) := by
  have hall : ∀ c ∈ n, (!delimiter c) = true := fun c hc => by simp [hn c hc]
  simp only [splitNetloc, List.takeWhile_append_of_pos hall, List.dropWhile_append_of_pos hall]
  cases rest with
  | nil => simp
  | cons d rest =>
    have hd : delimiter d = true := hrest
    simp [hd]

/-- A network location stood behind `//`, and a delimiter or nothing behind it. -/
theorem splitNetloc_spelled {l : List Char} (h : (splitNetloc l).1 ≠ []) :
    l = '/' :: '/' :: ((splitNetloc l).1 ++ (splitNetloc l).2) ∧
      (∀ c ∈ (splitNetloc l).1, delimiter c = false) ∧
      (splitNetloc l).2.head?.all delimiter = true := by
  revert h
  unfold splitNetloc
  split
  · rename_i rest
    intro _
    refine ⟨by rw [List.takeWhile_append_dropWhile], fun c hc => ?_, ?_⟩
    · have hnot := List.mem_takeWhile_imp hc
      simpa using hnot
    -- the first character behind the authority ends it
    · have hhead := List.head?_dropWhile_not (!delimiter ·) rest
      rw [Option.all_eq_true]
      intro c hc
      rw [hc] at hhead
      simpa using hhead
  · exact fun h => absurd rfl h

/-- The parts of a spelled URL. -/
theorem split_of_spelled {l s n rest : List Char} (h : Spelled l s n rest) :
    split l =
      { scheme := s.map Char.toLower
        netloc := n
        path := (cut '?' (cut '#' rest).1).1
        query := (cut '?' (cut '#' rest).1).2
        fragment := (cut '#' rest).2 } := by
  simp only [split, h.eq, splitScheme_append h.scheme, splitNetloc_append h.netloc h.rest]

/-- A URL with a scheme and a network location is spelled in this way. -/
theorem spelled_of_split {l : List Char} (hscheme : (split l).scheme ≠ [])
    (hnetloc : (split l).netloc ≠ []) : ∃ s n rest, Spelled l s n rest := by
  obtain ⟨s, hs, hl, -⟩ := splitScheme_spelled hscheme
  obtain ⟨hrest, hn, hhead⟩ := splitNetloc_spelled (l := (splitScheme l).2) hnetloc
  exact ⟨s, (splitNetloc (splitScheme l).2).1, (splitNetloc (splitScheme l).2).2,
    hl.trans (by rw [← hrest]), hs, hn, hhead⟩

/-- The same URL with another end. -/
theorem Spelled.replace {l s n rest rest' : List Char} (h : Spelled l s n rest)
    (hrest : rest'.head?.all delimiter = true) :
    Spelled (s ++ ':' :: '/' :: '/' :: (n ++ rest')) s n rest' :=
  ⟨rfl, h.scheme, h.netloc, hrest⟩

/-! ## What is left out of a URL -/

/-- Tabs and newlines are blanks, too. -/
theorem removed_blank {c : Char} (h : removed c = true) : blank c = true := by
  simp only [removed, Bool.or_eq_true, beq_iff_eq] at h
  rcases h with (rfl | rfl) | rfl <;> decide

/-- A character that is not blank is never left out. -/
theorem mem_cleaned {c : Char} {url : List Char} (h : blank c = false) :
    c ∈ cleaned url ↔ c ∈ url := by
  -- what is removed is blank
  have hremoved : removed c = false := by
    by_contra hc
    rw [removed_blank (by simpa using hc)] at h
    cases h
  rw [cleaned, List.mem_filter, hremoved]
  constructor
  · rintro ⟨hmem, -⟩
    exact (List.dropWhile_sublist blank).mem hmem
  · intro hmem
    rw [← List.takeWhile_append_dropWhile (p := blank) (l := url), List.mem_append] at hmem
    -- in front there are blanks only
    rcases hmem with hleft | hright
    · rw [List.mem_takeWhile_imp hleft] at h
      cases h
    · exact ⟨hright, rfl⟩

/-- What follows a URL is cleaned by itself. -/
theorem cleaned_append {url l : List Char} (hurl : cleaned url ≠ [])
    (hl : ∀ c ∈ l, removed c = false) : cleaned (url ++ l) = cleaned url ++ l := by
  have hdrop : (url.dropWhile blank).isEmpty = false := by
    rw [List.isEmpty_eq_false_iff]
    intro hnil
    exact hurl (by rw [cleaned, hnil, List.filter_nil])
  have hkeep : l.filter (!removed ·) = l :=
    List.filter_eq_self.mpr fun c hc => by simp [hl c hc]
  rw [cleaned, cleaned, List.dropWhile_append, hdrop]
  simp [hkeep]

/-- The last character that is kept is the last one before the tail that is not. -/
theorem getLast?_filter_not (p : Char → Bool) (l : List Char) :
    (l.filter (!p ·)).getLast? = (l.rdropWhile p).getLast? := by
  induction l using List.reverseRecOn with
  | nil => rfl
  | append_singleton l c ih =>
    by_cases hc : p c = true
    · rw [List.rdropWhile_concat_pos _ _ _ hc, ← ih]
      simp [hc]
    · rw [List.rdropWhile_concat_neg _ _ _ hc]
      simp [hc]

/-- The last character that is split is the last one that is not removed. -/
theorem getLast?_cleaned {url : List Char} (h : cleaned url ≠ []) :
    (cleaned url).getLast? = (url.rdropWhile removed).getLast? := by
  rw [← getLast?_filter_not]
  conv_rhs => rw [← List.takeWhile_append_dropWhile (p := blank) (l := url), List.filter_append]
  exact (List.getLast?_append_of_ne_nil _ h).symm

/-- Stripping a character from the end. -/
theorem exists_rstrip (c : Char) (l : List Char) :
    ∃ k, l = l.rdropWhile (· == c) ++ List.replicate k c ∧ (l.getLast? = some c ↔ k ≠ 0) := by
  induction l using List.reverseRecOn with
  | nil => exact ⟨0, rfl, by simp⟩
  | append_singleton l d ih =>
    by_cases hd : d = c
    · obtain ⟨k, hk, -⟩ := ih
      rw [hd, List.rdropWhile_concat_pos _ _ _ (by simp)]
      refine ⟨k + 1, ?_, by simp⟩
      rw [List.replicate_succ', ← List.append_assoc, ← hk]
    · rw [List.rdropWhile_concat_neg _ _ _ (by simpa using hd)]
      exact ⟨0, by simp, by simpa using hd⟩

/-! ## Requests to an origin -/

/-- The URL names a host and nothing below it. -/
structure Origin (parts : Parts) : Prop where
  scheme : parts.scheme ≠ []
  netloc : parts.netloc ≠ []
  path : parts.path = [] ∨ parts.path = ['/']
  query : parts.query = []
  fragment : parts.fragment = []

/-- A path that a program appends to an origin. -/
structure IsPath (p : List Char) : Prop where
  head : p.head? = some '/'
  long : p ≠ ['/']
  plain : ∀ c ∈ p, c ≠ '?' ∧ c ≠ '#' ∧ removed c = false

instance (p : List Char) : Decidable (IsPath p) :=
  -- over the list, not over all characters
  decidable_of_iff (p.head? = some '/' ∧ p ≠ ['/'] ∧
      p.all (fun c => c != '?' && c != '#' && !removed c) = true)
    ⟨fun ⟨h₁, h₂, h₃⟩ => ⟨h₁, h₂, by simpa [and_assoc] using h₃⟩,
      fun ⟨h₁, h₂, h₃⟩ => ⟨h₁, h₂, by simpa [and_assoc] using h₃⟩⟩

/-- The URL has no delimiter of a query or a fragment, not even of an empty one, and no slash at
    its end that only removed characters hide. -/
structure Bare (url : List Char) : Prop where
  noQuery : '?' ∉ url
  noFragment : '#' ∉ url
  slashLast : (url.rdropWhile removed).getLast? = some '/' → url.getLast? = some '/'

instance (url : List Char) : Decidable (Bare url) :=
  decidable_of_iff ('?' ∉ url ∧ '#' ∉ url ∧
      ((url.rdropWhile removed).getLast? = some '/' → url.getLast? = some '/'))
    ⟨fun ⟨h₁, h₂, h₃⟩ => ⟨h₁, h₂, h₃⟩, fun ⟨h₁, h₂, h₃⟩ => ⟨h₁, h₂, h₃⟩⟩

/-- The ways to spell an empty query and an empty fragment. -/
theorem rest_cases {rest : List Char} (hquery : (cut '?' (cut '#' rest).1).2 = [])
    (hfragment : (cut '#' rest).2 = []) :
    ∃ path, '?' ∉ path ∧ '#' ∉ path ∧ (cut '?' (cut '#' rest).1).1 = path ∧
      (rest = path ∨ ∃ d more, (d = '?' ∨ d = '#') ∧ rest = path ++ d :: more ∧
        (d :: more).getLast? ≠ some '/') := by
  have hhash := not_mem_cut '#' rest
  have hmark := not_mem_cut '?' (cut '#' rest).1
  -- without a fragment mark: with or without a query mark
  rcases cut_cases '#' rest with ⟨-, hcut⟩ | ⟨a, b, -, rfl, hcut⟩
  · rw [hcut] at hquery hhash hmark ⊢
    rcases cut_cases '?' rest with ⟨-, hcut'⟩ | ⟨a', b', -, rfl, hcut'⟩
    · rw [hcut'] at hmark ⊢
      exact ⟨rest, hmark, hhash, rfl, .inl rfl⟩
    · rw [hcut'] at hquery hmark ⊢
      obtain rfl : b' = [] := hquery
      exact ⟨a', hmark, fun hmem => hhash (List.mem_append_left _ hmem), rfl,
        .inr ⟨'?', [], .inl rfl, rfl, by decide⟩⟩
  · rw [hcut] at hquery hhash hmark hfragment ⊢
    -- with one: nothing is behind it
    obtain rfl : b = [] := hfragment
    rcases cut_cases '?' a with ⟨-, hcut'⟩ | ⟨a', b', -, rfl, hcut'⟩
    · rw [hcut'] at hmark ⊢
      exact ⟨a, hmark, hhash, rfl, .inr ⟨'#', [], .inr rfl, rfl, by decide⟩⟩
    · rw [hcut'] at hquery hmark ⊢
      obtain rfl : b' = [] := hquery
      exact ⟨a', hmark, fun hmem => hhash (List.mem_append_left _ hmem), rfl,
        .inr ⟨'?', ['#'], .inl rfl, by simp, by decide⟩⟩

/-- The path ends at a delimiter, whatever follows it. -/
theorem path_of_delimiter {path more : List Char} {d : Char} (hmark : '?' ∉ path)
    (hhash : '#' ∉ path) (hd : d = '?' ∨ d = '#') :
    (cut '?' (cut '#' (path ++ d :: more)).1).1 = path := by
  rcases hd with rfl | rfl
  · have hpiece : (cut '#' (path ++ '?' :: more)).1 = path ++ '?' :: (cut '#' more).1 := by
      have hall : ∀ c ∈ path, (c != '#') = true := fun c hc => by
        simp only [bne_iff_ne]
        exact fun heq => hhash (heq ▸ hc)
      simp [cut, List.takeWhile_append_of_pos hall]
    rw [hpiece, cut_append hmark]
  · rw [cut_append hhash, cut_of_not_mem hmark]

/-- Stripping the slashes of a URL shortens what follows its network location. -/
theorem Spelled.strip {url s n rest : List Char} (h : Spelled (cleaned url) s n rest)
    (hn : n ≠ []) : ∃ k rest₀, rest = rest₀ ++ List.replicate k '/' ∧
      cleaned (url.rdropWhile (· == '/')) = s ++ ':' :: '/' :: '/' :: (n ++ rest₀) ∧
      (url.getLast? = some '/' ↔ k ≠ 0) := by
  obtain ⟨k, hurl, hlast⟩ := exists_rstrip '/' url
  generalize url.rdropWhile (· == '/') = o at *
  -- the colon of the scheme is not stripped
  have hcolon : ':' ∈ o := by
    have hmem : ':' ∈ url := (mem_cleaned (by decide)).mp (by rw [h.eq]; simp)
    rw [hurl, List.mem_append] at hmem
    exact hmem.resolve_right fun hslash => by simpa using List.eq_of_mem_replicate hslash
  have ho : cleaned o ≠ [] := List.ne_nil_of_mem ((mem_cleaned (by decide)).mpr hcolon)
  have hclean : cleaned url = cleaned o ++ List.replicate k '/' := by
    rw [hurl]
    exact cleaned_append ho fun c hc => by rw [List.eq_of_mem_replicate hc]; decide
  -- and neither is the end of the network location, which is no slash
  have heq : (s ++ ':' :: '/' :: '/' :: n) ++ rest = cleaned o ++ List.replicate k '/' := by
    rw [← hclean, h.eq]
    simp
  rcases List.append_eq_append_iff.mp heq with ⟨c, hleft, hright⟩ | ⟨c, hleft, hright⟩
  · exact ⟨k, c, hright, by simpa using hleft, hlast⟩
  · cases hc : c.getLast? with
    | none =>
      rw [List.getLast?_eq_none_iff.mp hc] at hleft hright
      exact ⟨k, [], by simpa using hright.symm, by simpa using hleft.symm, hlast⟩
    | some d =>
      have hslash : d = '/' :=
        List.eq_of_mem_replicate (hright ▸ List.mem_append_left _ (List.mem_of_getLast? hc))
      have hd : (s ++ ':' :: '/' :: '/' :: n).getLast? = some d := by
        rw [hleft, List.getLast?_append, hc, Option.some_or]
      rw [List.append_cons, List.append_cons, List.append_cons,
        List.getLast?_append_of_ne_nil _ hn] at hd
      have hdelim := h.netloc d (List.mem_of_getLast? hd)
      rw [hslash] at hdelim
      exact absurd hdelim (by decide)

/-- A scheme has scheme characters only. -/
theorem IsScheme.not_mem {s : List Char} (h : IsScheme s) {c : Char} (hc : schemeChar c = false) :
    c ∉ s := by
  intro hmem
  rw [List.all_eq_true.mp h.2 c hmem] at hc
  cases hc

/-- Question marks and number signs stand behind the network location. -/
theorem Spelled.mem_url {url s n rest : List Char} (h : Spelled (cleaned url) s n rest) {c : Char}
    (hc : c = '?' ∨ c = '#') : c ∈ url ↔ c ∈ rest := by
  have hs : c ∉ s := h.scheme.not_mem (by rcases hc with rfl | rfl <;> decide)
  have hn : c ∉ n := by
    intro hmem
    have hdelim := h.netloc c hmem
    rcases hc with rfl | rfl <;> exact absurd hdelim (by decide)
  rw [← mem_cleaned (by rcases hc with rfl | rfl <;> decide), h.eq]
  rcases hc with rfl | rfl <;> simp [hs, hn]

/-- The last character of the URL is a slash only behind the network location. -/
theorem Spelled.getLast?_eq_slash {url s n rest : List Char} (h : Spelled (cleaned url) s n rest)
    (hn : n ≠ []) :
    (url.rdropWhile removed).getLast? = some '/' ↔ rest.getLast? = some '/' := by
  have heq : cleaned url = (s ++ [':'] ++ ['/'] ++ ['/']) ++ (n ++ rest) := by
    rw [h.eq]
    simp
  rw [← getLast?_cleaned (by rw [heq]; simp), heq,
    List.getLast?_append_of_ne_nil _ (List.append_ne_nil_of_left_ne_nil hn _), List.getLast?_append]
  cases hrest : rest.getLast? with
  | some d => rw [Option.some_or]
  | none =>
    refine iff_of_false (fun hlast => ?_) (fun hlast => by cases hlast)
    have hdelim := h.netloc '/' (List.mem_of_getLast? hlast)
    exact absurd hdelim (by decide)

/-- The end of a request target, read for an origin with any of its spellings. -/
theorem request_path_iff {rest rest₀ p : List Char} {k : Nat} (hp : IsPath p)
    (hpath : (cut '?' (cut '#' rest).1).1 = [] ∨ (cut '?' (cut '#' rest).1).1 = ['/'])
    (hquery : (cut '?' (cut '#' rest).1).2 = []) (hfragment : (cut '#' rest).2 = [])
    (hrest : rest = rest₀ ++ List.replicate k '/') :
    (cut '?' (cut '#' (rest₀ ++ p)).1).1 = p ∧ (cut '?' (cut '#' (rest₀ ++ p)).1).2 = [] ∧
        (cut '#' (rest₀ ++ p)).2 = [] ↔
      '?' ∉ rest ∧ '#' ∉ rest ∧ (rest.getLast? = some '/' → k ≠ 0) := by
  have hmark : '?' ∉ p := fun hmem => (hp.plain _ hmem).1 rfl
  have hhash : '#' ∉ p := fun hmem => (hp.plain _ hmem).2.1 rfl
  have hnil : p ≠ [] := by
    rintro rfl
    cases hp.head
  obtain ⟨path, hpmark, hphash, hcut, hshape⟩ := rest_cases hquery hfragment
  rw [hcut] at hpath
  rcases hshape with rfl | ⟨d, more, hd, rfl, hlast⟩
  · rcases hpath with rfl | rfl
    · -- nothing follows the network location
      obtain ⟨rfl, -⟩ := List.append_eq_nil_iff.mp hrest.symm
      simp [cut_of_not_mem hhash, cut_of_not_mem hmark]
    · -- a slash follows, which is stripped unless removed characters hide it
      cases k with
      | zero =>
        rw [List.replicate_zero, List.append_nil] at hrest
        rw [← hrest]
        have hmark' : '?' ∉ '/' :: p := by simp [hmark]
        have hhash' : '#' ∉ '/' :: p := by simp [hhash]
        rw [List.singleton_append, cut_of_not_mem hhash', cut_of_not_mem hmark']
        simp
      | succ k =>
        rw [List.replicate_succ', ← List.append_assoc] at hrest
        obtain ⟨rfl, -⟩ := List.append_eq_nil_iff.mp (List.self_eq_append_left.mp hrest)
        simp [cut_of_not_mem hhash, cut_of_not_mem hmark]
  · -- an empty query or fragment takes the path in
    have hk : k = 0 := by
      by_contra hk
      refine hlast ?_
      have hend := congrArg List.getLast? hrest
      rw [List.getLast?_append, List.getLast?_append, List.getLast?_replicate, if_neg hk,
        Option.some_or] at hend
      cases hmore : (d :: more).getLast? with
      | none => simp at hmore
      | some c =>
        rw [hmore, Option.some_or] at hend
        exact hend
    rw [hk, List.replicate_zero, List.append_nil] at hrest
    refine iff_of_false (fun h => ?_) (fun h => ?_)
    · rw [← hrest, List.append_assoc, List.cons_append, path_of_delimiter hpmark hphash hd] at h
      rcases hpath with hpath | hpath
      · exact hnil (h.1.symm.trans hpath)
      · exact hp.long (h.1.symm.trans hpath)
    · rcases hd with rfl | rfl
      · exact h.1 (by simp)
      · exact h.2.1 (by simp)

/-- A path appended to a stripped origin leaves the scheme and the network location as they
    were, and is the path of the target exactly where the URL is bare. -/
theorem urlsplit_request {t : Tables} {url p : List Char} {parts : Parts}
    (h : urlsplit t url = some parts) (ho : Origin parts) (hp : IsPath p) :
    ∃ target, urlsplit t (url.rdropWhile (· == '/') ++ p) = some target ∧
      target.scheme = parts.scheme ∧ target.netloc = parts.netloc ∧
      (target.path = p ∧ target.query = [] ∧ target.fragment = [] ↔ Bare url) := by
  unfold urlsplit at h
  simp only [] at h
  split at h
  case isFalse => cases h
  rename_i hok
  cases h
  obtain ⟨s, n, rest, hsp⟩ := spelled_of_split ho.scheme ho.netloc
  rw [split_of_spelled hsp] at hok ho ⊢
  have hn : n ≠ [] := ho.netloc
  obtain ⟨k, rest₀, hrest, hstrip, hlast⟩ := hsp.strip hn
  -- the target is spelled like the URL, with another end
  have hsp' : Spelled (cleaned (url.rdropWhile (· == '/') ++ p)) s n (rest₀ ++ p) := by
    have hne : cleaned (url.rdropWhile (· == '/')) ≠ [] := by rw [hstrip]; simp
    rw [cleaned_append hne fun c hc => (hp.plain c hc).2.2, hstrip]
    have heq : s ++ ':' :: '/' :: '/' :: (n ++ rest₀) ++ p =
        s ++ ':' :: '/' :: '/' :: (n ++ (rest₀ ++ p)) := by simp
    rw [heq]
    refine hsp.replace ?_
    cases hhead : rest₀ with
    | nil => rw [List.nil_append, hp.head]; rfl
    | cons d more =>
      have hd := hsp.rest
      rw [hrest, hhead] at hd
      exact hd
  refine ⟨split (cleaned (url.rdropWhile (· == '/') ++ p)), ?_, ?_, ?_, ?_⟩
  · unfold urlsplit
    simp only [split_of_spelled hsp']
    exact if_pos hok
  · rw [split_of_spelled hsp']
  · rw [split_of_spelled hsp']
  · rw [split_of_spelled hsp']
    refine (request_path_iff hp ho.path ho.query ho.fragment hrest).trans ?_
    rw [← hsp.mem_url (.inl rfl), ← hsp.mem_url (.inr rfl), ← hsp.getLast?_eq_slash hn, ← hlast]
    constructor
    · rintro ⟨hmark, hhash, hslash⟩
      exact ⟨hmark, hhash, hslash⟩
    · rintro ⟨hmark, hhash, hslash⟩
      exact ⟨hmark, hhash, hslash⟩

end UrlSplit
