import Tomiris.ForStd.Except
import Tomiris.ForStd.UrlSplit
import Tomiris.Orchestrator.Client

/-!
# The endpoint that is called

`validate` checks what `urlsplit` makes of an endpoint URL, but returns the URL itself with
the slashes at its end stripped. An empty query or fragment passes the checks, and the path
of a request that is appended to such a URL becomes a part of it. A tab or a line break
behind the last slash hides that slash from `rstrip` and not from `urlsplit`.

## Key results

- `EndpointValidator.validate_ok`: what an accepted URL has passed
- `EndpointValidator.called_iff`: the URLs for which every request goes to its own path
-/

namespace Tomiris

open EndpointValidator

/-- `urlsplit`, with the properties that `validate` reads; `none` is a `ValueError` of either. -/
def urlsplit (t : UrlSplit.Tables) (url : String) : Option SplitResult :=
  match UrlSplit.urlsplit t url.toList with
  | none => none
  | some parts =>
    match UrlSplit.port parts.netloc with
    | none => none
    | some port => some
      { scheme := String.ofList parts.scheme
        username := (UrlSplit.userinfo parts.netloc).1.map String.ofList
        password := (UrlSplit.userinfo parts.netloc).2.map String.ofList
        hostname := (UrlSplit.hostname t parts.netloc).map String.ofList
        port := port
        path := String.ofList parts.path
        query := String.ofList parts.query
        fragment := String.ofList parts.fragment }

/-- The paths that `dispatch` and `probe` append to what `validate` returns. -/
def requestPaths : List String :=
  ["/v1/analyze", "/health/live", "/health/ready", "/v1/capabilities"]

theorem isPath_requestPaths : ∀ path ∈ requestPaths, UrlSplit.IsPath path.toList := by
  decide +kernel

/-- The target of a request splits into the scheme, host and port that were validated and the path
    of the request, with neither query nor fragment. -/
def Reaches (net : Network) (parsed : SplitResult) (target path : String) : Prop :=
  ∃ r, net.urlsplit target = some r ∧ r.scheme = parsed.scheme ∧ r.hostname = parsed.hostname ∧
    r.port = parsed.port ∧ r.path = path ∧ r.query = "" ∧ r.fragment = ""

/-- The URL has no `?` and no `#`, and it does not end with a slash that tabs or line breaks
    follow. -/
def BareUrl (url : String) : Prop := UrlSplit.Bare url.toList

instance (url : String) : Decidable (BareUrl url) :=
  inferInstanceAs (Decidable (UrlSplit.Bare url.toList))

namespace EndpointValidator

/-- What an accepted URL has passed, and what is returned for it. -/
theorem validate_ok {v : EndpointValidator} {net : Network} {url environment o : String}
    (h : v.validate net url environment = .ok o) :
    ∃ parsed, net.urlsplit url = some parsed ∧ v.brokenRule parsed environment = none ∧
      o = rstrip '/' url := by
  unfold validate at h
  split at h
  · cases h
  · rename_i parsed hparsed
    split at h
    · cases h
    · rename_i hrule
      split at h
      · cases h
      · cases h
        exact ⟨parsed, hparsed, hrule, rfl⟩

/-- An accepted URL names a host, and nothing below it that the checks can see. -/
theorem brokenRule_none {v : EndpointValidator} {parsed : SplitResult} {environment : String}
    (h : v.brokenRule parsed environment = none) :
    (parsed.scheme = "http" ∨ parsed.scheme = "https") ∧ parsed.hostname.getD "" ≠ "" ∧
      (parsed.path = "" ∨ parsed.path = "/") ∧ parsed.query = "" ∧ parsed.fragment = "" := by
  unfold brokenRule at h
  split at h
  · cases h
  · rename_i hscheme
    split at h
    · cases h
    · split at h
      · cases h
      · rename_i hquery
        split at h
        · cases h
        -- no rule was broken, in the order of the source
        · rename_i hpath
          rw [not_or, not_not] at hscheme
          simp only [not_or, not_not] at hquery
          refine ⟨hscheme.1, hscheme.2, ?_, hquery⟩
          by_cases hnil : parsed.path = ""
          · exact .inl hnil
          · exact .inr (not_not.mp fun hslash => hpath ⟨hnil, hslash⟩)

end EndpointValidator

/-- The parts behind a split result. -/
theorem urlsplit_some {t : UrlSplit.Tables} {url : String} {parsed : SplitResult}
    (h : urlsplit t url = some parsed) :
    ∃ parts port, UrlSplit.urlsplit t url.toList = some parts ∧
      UrlSplit.port parts.netloc = some port ∧
      parsed.scheme = String.ofList parts.scheme ∧
      parsed.hostname = (UrlSplit.hostname t parts.netloc).map String.ofList ∧
      parsed.port = port ∧ parsed.path = String.ofList parts.path ∧
      parsed.query = String.ofList parts.query ∧
      parsed.fragment = String.ofList parts.fragment := by
  unfold urlsplit at h
  split at h
  · cases h
  · rename_i parts hparts
    split at h
    · cases h
    · rename_i port hport
      cases h
      exact ⟨parts, port, hparts, hport, rfl, rfl, rfl, rfl, rfl, rfl⟩

theorem ofList_eq {l : List Char} {s : String} : String.ofList l = s ↔ l = s.toList := by
  constructor
  · rintro rfl
    rw [String.toList_ofList]
  · rintro rfl
    rw [String.ofList_toList]

namespace EndpointValidator

/-- **The endpoint that is called.** Every request of the orchestrator to an accepted endpoint goes
    to the scheme, host and port that were validated, to its own path and without query and
    fragment, if and only if the endpoint URL is bare. -/
theorem called_iff {t : UrlSplit.Tables} {net : Network} (hnet : net.urlsplit = urlsplit t)
    {v : EndpointValidator} {url environment o : String}
    (h : v.validate net url environment = .ok o) :
    ∃ parsed, net.urlsplit url = some parsed ∧
      ∀ path ∈ requestPaths, Reaches net parsed (o ++ path) path ↔ BareUrl url := by
  obtain ⟨parsed, hparsed, hrule, rfl⟩ := validate_ok h
  refine ⟨parsed, hparsed, fun path hmem => ?_⟩
  rw [hnet] at hparsed
  obtain ⟨hscheme, hhost, hpath, hquery, hfragment⟩ := brokenRule_none hrule
  obtain ⟨parts, port, hparts, hport, hs, hh, hp, hpa, hq, hf⟩ := urlsplit_some hparsed
  -- what the checks have seen, in the characters of the URL
  have horigin : UrlSplit.Origin parts := by
    refine ⟨?_, ?_, ?_, ofList_eq.mp (hq.symm.trans hquery), ofList_eq.mp (hf.symm.trans hfragment)⟩
    · intro hnil
      rw [hs, hnil] at hscheme
      revert hscheme
      decide
    · refine UrlSplit.netloc_ne_nil_of_hostname (t := t) fun hnone => ?_
      rw [hh, hnone] at hhost
      exact hhost rfl
    · rw [hpa, ofList_eq, ofList_eq] at hpath
      exact hpath
  obtain ⟨target, htarget, htscheme, htnetloc, hiff⟩ :=
    UrlSplit.urlsplit_request hparts horigin (isPath_requestPaths path hmem)
  have hconcat : (rstrip '/' url ++ path).toList =
      url.toList.rdropWhile (· == '/') ++ path.toList := by
    rw [String.toList_append, rstrip, String.toList_ofList]
  -- the target splits in any case, since its network location has passed already
  have hsplit : ∃ r, urlsplit t (rstrip '/' url ++ path) = some r :=
    ⟨_, by simp only [urlsplit, hconcat, htarget, htnetloc, hport]; rfl⟩
  obtain ⟨r, hr⟩ := hsplit
  obtain ⟨parts', port', hparts', hport', hs', hh', hp', hpa', hq', hf'⟩ := urlsplit_some hr
  rw [hconcat, htarget] at hparts'
  cases hparts'
  rw [htnetloc, hport] at hport'
  cases hport'
  rw [BareUrl, ← hiff]
  constructor
  · rintro ⟨r', hr', -, -, -, hrpath, hrquery, hrfragment⟩
    rw [hnet, hr] at hr'
    cases hr'
    exact ⟨ofList_eq.mp (hpa'.symm.trans hrpath), ofList_eq.mp (hq'.symm.trans hrquery),
      ofList_eq.mp (hf'.symm.trans hrfragment)⟩
  · rintro ⟨hrpath, hrquery, hrfragment⟩
    refine ⟨r, by rw [hnet, hr], ?_, ?_, hp'.trans hp.symm, ?_, ?_, ?_⟩
    · rw [hs', htscheme, hs]
    · rw [hh', htnetloc, hh]
    · rw [hpa', hrpath, String.ofList_toList]
    · rw [hq', hrquery, String.ofList_nil]
    · rw [hf', hrfragment, String.ofList_nil]

end EndpointValidator

namespace Deployment

/-- Names in ASCII: no character normalises to another one. -/
def asciiTables : UrlSplit.Tables where
  lower := List.map Char.toLower
  netlocOk := fun _ => true

/-- A network without addresses and agents, on which URLs are split. -/
def splitting : Network where
  urlsplit := urlsplit asciiTables
  resolver := fun _ _ => .error .osError
  ipAddress := fun _ => none
  secret := fun _ => none
  post := fun _ _ => .error .network

end Deployment

namespace EndpointValidator

open Deployment in
/-- The slash at the end is stripped, and a port stays. -/
theorem called_iff_slash :
    ∃ parsed, splitting.urlsplit "https://agent:8080/" = some parsed ∧
      ∀ path ∈ requestPaths, Reaches splitting parsed ("https://agent:8080" ++ path) path := by
  obtain ⟨parsed, hparsed, hcalled⟩ := @called_iff asciiTables splitting rfl ⟨[]⟩
    "https://agent:8080/" "DEVELOPMENT" "https://agent:8080"
    (Except.toOption_eq_some.mp (by decide +kernel))
  exact ⟨parsed, hparsed, fun path hmem => (hcalled path hmem).mpr (by decide)⟩

open Deployment in
/-- An empty query is accepted, and swallows the path of every request. -/
theorem called_with_query :
    ¬ ∀ (t : UrlSplit.Tables) (net : Network), net.urlsplit = urlsplit t →
      ∀ (v : EndpointValidator) (url environment o : String),
        v.validate net url environment = .ok o →
        ∃ parsed, net.urlsplit url = some parsed ∧
          ∀ path ∈ requestPaths, Reaches net parsed (o ++ path) path := by
  intro hclaim
  obtain ⟨parsed, -, hreaches⟩ := hclaim asciiTables splitting rfl ⟨[]⟩ "https://agent?"
    "DEVELOPMENT" "https://agent?" (Except.toOption_eq_some.mp (by decide +kernel))
  obtain ⟨r, hr, -, -, -, hpath, -⟩ := hreaches "/v1/analyze" (by decide)
  have hempty : (splitting.urlsplit ("https://agent?" ++ "/v1/analyze")).map (·.path) = some "" := by
    decide +kernel
  rw [hr, Option.map_some, hpath] at hempty
  revert hempty
  decide

end EndpointValidator

end Tomiris
