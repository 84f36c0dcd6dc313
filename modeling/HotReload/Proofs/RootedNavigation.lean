import HotReload.Navigation
import HotReload.Proofs.SpecReading
import HotReload.Url.Reader
import Mathlib.Data.List.DropRight
import Mathlib.Data.List.TakeWhile

/-!
# Targets that begin with a slash

A page is moved to a target that begins with a slash by reading the target against the URL that the
page tells. Of the library that does so only what the standard says of such references is needed
(`UrlLibrary.Standard`): tabs and line breaks are dropped; behind one slash there are a path, a
query and a fragment, and the other parts are those of the URL of the page; and two slashes, of
which any may be a backslash, are followed by an authority, as in a URL that lacks only its scheme.

So a target with one slash stays at the origin, whatever dots, slashes and marks it has behind this
slash. A target with two (`namesAuthority`) leads to the host that it names (`rooted_goto_exact`). A
page that is sent to another host is shown at the end (`rooted_goto_leaves_origin`).

The library of the program meets the standard in these points (`Url.standard_library`).
-/

set_option autoImplicit false

namespace HotReload

open Spec (exists_of_bind_ok)

/-! ## What the standard says -/

namespace UrlLibrary

variable {U : Type} (library : UrlLibrary U)

/-- Two URLs of one origin. -/
structure SameOrigin (first second : U) : Prop where
  scheme : (library.parts first).scheme = (library.parts second).scheme
  host : (library.parts first).host = (library.parts second).host
  port : (library.parts first).port = (library.parts second).port

/-- A URL of the web. -/
def OfWeb (url : U) : Prop :=
  (library.parts url).scheme = "http" ∨ (library.parts url).scheme = "https"

/-- Tabs and line breaks, which are dropped from every URL. -/
def isBreak (c : Char) : Bool :=
  c == '\t' || c == '\n' || c == '\r'

/-- A text without tabs and line breaks. -/
def withoutBreaks (text : String) : String :=
  String.ofList (text.toList.filter fun c => !isBreak c)

/-- A slash, or a backslash in its place. -/
def isSlash (c : Char) : Bool :=
  c == '/' || c == '\\'

/-- Whether a reference begins with two slashes, so that it names a host. -/
def namesAuthority (reference : String) : Bool :=
  match (withoutBreaks reference).toList with
  | first :: second :: _ => isSlash first && isSlash second
  | _ => false

/-- What the standard says of references that begin with a slash, when they are read against a URL
of the web. -/
structure Standard : Prop where
  /-- Tabs and line breaks are dropped from a URL. -/
  read_withoutBreaks (text : String) : library.read (withoutBreaks text) = library.read text
  /-- Tabs and line breaks are dropped from a reference. -/
  join_withoutBreaks (url : U) (reference : String) :
    library.join url (withoutBreaks reference) = library.join url reference
  /-- Behind a single slash there is a path, and perhaps a query and a fragment. These take the
  place of those of the URL that the reference is read against, and its other parts stay. -/
  join_path {here : String} {url joined : U} {rest : List Char}
    (parsed : library.read here = .ok url) (web : library.OfWeb url)
    (unbroken : ∀ c ∈ rest, isBreak c = false) (single : ∀ c ∈ rest.head?, isSlash c = false)
    (joins : library.join url (String.ofList ('/' :: rest)) = .ok joined) :
    ∃ path query fragment,
      library.parts joined = { library.parts url with path, query, fragment }
  /-- Behind two slashes there is an authority. Only the scheme is that of the URL that the
  reference is read against. -/
  join_authority {here : String} {url joined : U} {slash : Char} {rest : List Char}
    (parsed : library.read here = .ok url) (web : library.OfWeb url)
    (unbroken : ∀ c ∈ rest, isBreak c = false) (second : isSlash slash = true)
    (joins : library.join url (String.ofList ('/' :: slash :: rest)) = .ok joined) :
    library.read ((library.parts url).scheme ++ ":" ++ String.ofList ('/' :: slash :: rest)) =
      .ok joined

variable {library} {here reference : String} {url joined : U}

theorem withoutBreaks_append (first second : String) :
    withoutBreaks (first ++ second) = withoutBreaks first ++ withoutBreaks second := by
  simp [withoutBreaks, String.ofList_append]

/-- Nothing is dropped from the scheme of a URL of the web. -/
theorem OfWeb.withoutBreaks_scheme (web : library.OfWeb url) :
    withoutBreaks ((library.parts url).scheme ++ ":") = (library.parts url).scheme ++ ":" := by
  rcases web with same | same <;> rw [same] <;> rfl

/-- A reference that begins with a slash still does so without its breaks, and then there are one
slash or two. -/
theorem exists_withoutBreaks (start : reference.toList.head? = some '/') :
    ∃ rest, withoutBreaks reference = String.ofList ('/' :: rest) ∧
      (∀ c ∈ rest, isBreak c = false) ∧
      (namesAuthority reference = true ↔ ∃ c ∈ rest.head?, isSlash c = true) := by
  obtain ⟨behind, shape⟩ := List.head?_eq_some_iff.1 start
  have same : withoutBreaks reference =
      String.ofList ('/' :: behind.filter fun c => !isBreak c) := by
    rw [withoutBreaks, shape]
    rfl
  refine ⟨_, same, fun c mem => by simpa using (List.mem_filter.1 mem).2, ?_⟩
  rw [namesAuthority, same, String.toList_ofList]
  cases behind.filter fun c => !isBreak c with
  | nil => simp
  | cons second rest => simp [isSlash]

namespace Standard

variable (standard : library.Standard) (parsed : library.read here = .ok url)
  (web : library.OfWeb url) (start : reference.toList.head? = some '/')
  (joins : library.join url reference = .ok joined)
include standard parsed web start joins

/-- With one slash a reference stays at the origin. -/
theorem sameOrigin (alone : namesAuthority reference = false) :
    library.SameOrigin joined url := by
  obtain ⟨rest, same, unbroken, two⟩ := exists_withoutBreaks start
  rw [← standard.join_withoutBreaks, same] at joins
  have single : ∀ c ∈ rest.head?, isSlash c = false := by
    intro c first
    by_contra slash
    exact Bool.noConfusion (alone.symm.trans (two.2 ⟨c, first, Bool.not_eq_false _ ▸ slash⟩))
  obtain ⟨path, query, fragment, parts⟩ := standard.join_path parsed web unbroken single joins
  exact ⟨by rw [parts], by rw [parts], by rw [parts]⟩

/-- With two slashes a reference leads to the URL that it spells behind the scheme. -/
theorem read_eq (named : namesAuthority reference = true) :
    library.read ((library.parts url).scheme ++ ":" ++ reference) = .ok joined := by
  obtain ⟨rest, same, unbroken, two⟩ := exists_withoutBreaks start
  obtain ⟨slash, first, second⟩ := two.1 named
  obtain ⟨behind, rfl⟩ := List.head?_eq_some_iff.1 first
  rw [← standard.join_withoutBreaks, same] at joins
  rw [← standard.read_withoutBreaks, withoutBreaks_append, web.withoutBreaks_scheme, same]
  exact standard.join_authority parsed web (fun c mem => unbroken c (.tail _ mem)) second joins

end Standard

end UrlLibrary

/-! ## The library of the program -/

namespace Url

open UrlLibrary (isBreak withoutBreaks)

variable {url joined : Url} {scheme cs : List Char} {text reference : String}

theorem exists_segments_withRest (url : Url) (cs : List Char) :
    ∃ segments, (url.withRest cs).path = .segments segments :=
  ⟨_, rfl⟩

/-- Behind two slashes the scheme is kept, and the path has segments. -/
theorem of_withAuthority (done : withAuthority scheme cs = .ok url) :
    url.scheme = scheme ∧ ∃ segments, url.path = .segments segments := by
  unfold withAuthority at done
  obtain ⟨host, -, done⟩ := exists_of_bind_ok done
  obtain ⟨port, -, done⟩ := exists_of_bind_ok done
  obtain rfl := Except.ok.inj done
  exact ⟨rfl, _, rfl⟩

theorem exists_segments_of_withFileHost (done : withFileHost scheme cs = .ok url) :
    ∃ segments, url.path = .segments segments := by
  unfold withFileHost at done
  dsimp only at done
  split at done
  all_goals
    obtain ⟨host, -, done⟩ := exists_of_bind_ok done
    obtain rfl := Except.ok.inj done
    exact exists_segments_withRest _ _

/-- Only URLs that are neither of the web nor files have a path without segments. -/
theorem exists_segments_of_read (done : read text = .ok url) (web : kindOf url.scheme = .web) :
    ∃ segments, url.path = .segments segments := by
  unfold read at done
  split at done
  · exact nomatch done
  · split at done
    · exact (of_withAuthority done).2
    · unfold readFile at done
      split at done
      · split at done
        · exact exists_segments_of_withFileHost done
        · exact Except.ok.inj done ▸ exists_segments_withRest _ _
      · exact Except.ok.inj done ▸ exists_segments_withRest _ _
    · rename_i other
      unfold readOther at done
      split at done
      · exact (of_withAuthority done).2
      · exact Except.ok.inj done ▸ exists_segments_withRest _ _
      · obtain rfl := Except.ok.inj done
        exact nomatch other.symm.trans web

/-- A URL of the web has a host, so there is no third slash in front of it. -/
theorem withAuthority_slash (web : kindOf scheme = .web) {c : Char}
    (slash : isSlash .web c = true) (rest : List Char) :
    withAuthority scheme (c :: rest) = .error .emptyHost := by
  have stops : (c :: rest).takeWhile (fun c => !endsAuthority .web c) = [] := by
    simp [endsAuthority, slash]
  unfold withAuthority
  simp only [web, stops]
  rfl

theorem kindOf_scheme (web : library.OfWeb url) : kindOf url.scheme = .web := by
  rcases web with same | same <;> rw [kindOf, show String.ofList url.scheme = _ from same] <;> rfl

/-- A scheme of the web is read in front of its colon. -/
theorem scheme?_web (web : library.OfWeb url) (rest : List Char) :
    scheme? (url.scheme ++ ':' :: rest) = some (url.scheme, rest) := by
  rcases web with same | same <;> rw [String.ofList_injective same] <;> rfl

/-! ### Cleaned texts -/

/-- What is left of a text when nothing in front of it is dropped. -/
def cleanedEnd (cs : List Char) : List Char :=
  (cs.rdropWhile fun c => decide (c.toNat ≤ 0x20)).filter fun c => !isIgnored c

/-- Behind visible characters only the end of a text is cleaned. -/
theorem cleaned_append {front : List Char} (visible : ∀ c ∈ front, 0x20 < c.toNat)
    (some : front ≠ []) (rest : List Char) :
    cleaned (String.ofList (front ++ rest)) = front ++ cleanedEnd rest := by
  have stays : ∀ cs : List Char, (∀ c ∈ cs, 0x20 < c.toNat) →
      cs.dropWhile (fun c => decide (c.toNat ≤ 0x20)) = cs := by
    intro cs all
    rw [List.dropWhile_eq_self_iff]
    intro any
    simpa using all _ (List.getElem_mem any)
  have plain : front.filter (fun c => !isIgnored c) = front := by
    rw [List.filter_eq_self]
    intro c mem
    have large := visible c mem
    simp only [isIgnored, Bool.not_eq_true', Bool.or_eq_false_iff, beq_eq_false_iff_ne]
    refine ⟨⟨?_, ?_⟩, ?_⟩ <;> rintro rfl <;> exact absurd large (by decide)
  have begins : (front ++ rest).dropWhile (fun c => decide (c.toNat ≤ 0x20)) = front ++ rest := by
    obtain ⟨c, cs, rfl⟩ := List.exists_cons_of_ne_nil some
    have large := visible c (List.mem_cons_self ..)
    rw [List.cons_append, List.dropWhile_cons_of_neg]
    simpa using large
  have ends : (rest.reverse ++ front.reverse).dropWhile (fun c => decide (c.toNat ≤ 0x20)) =
      rest.reverse.dropWhile (fun c => decide (c.toNat ≤ 0x20)) ++ front.reverse := by
    rw [List.dropWhile_append, stays front.reverse fun c mem => visible c (List.mem_reverse.1 mem)]
    split
    · rename_i nothing
      rw [List.isEmpty_iff.1 nothing, List.nil_append]
    · rfl
  unfold cleaned
  rw [String.toList_ofList]
  simp only [begins]
  rw [List.reverse_append, ends, List.reverse_append, List.reverse_reverse, List.filter_append,
    plain]
  rfl

theorem cleaned_slash (cs : List Char) :
    cleaned (String.ofList ('/' :: cs)) = '/' :: cleanedEnd cs := by
  have visible : ∀ c ∈ ['/'], 0x20 < c.toNat := List.forall_mem_singleton.2 (by decide)
  exact cleaned_append visible (List.cons_ne_nil _ _) cs

/-- The end of a text without breaks is only cut off. -/
theorem cleanedEnd_prefix (unbroken : ∀ c ∈ cs, isBreak c = false) : cleanedEnd cs <+: cs := by
  have kept : cleanedEnd cs = cs.rdropWhile fun c => decide (c.toNat ≤ 0x20) := by
    rw [cleanedEnd, List.filter_eq_self]
    intro c mem
    have whole := unbroken c ((List.rdropWhile_prefix _ _).subset mem)
    rw [show isIgnored c = isBreak c from rfl, whole]
    rfl
  rw [kept]
  exact List.rdropWhile_prefix _ _

/-- Tabs and line breaks are cleaned away. -/
theorem cleaned_withoutBreaks (text : String) : cleaned (withoutBreaks text) = cleaned text := by
  -- they are dropped from the ends anyway, so it does not matter when they are
  have absorbed : (fun c => !!isIgnored c || decide (c.toNat ≤ 0x20)) =
      fun c : Char => decide (c.toNat ≤ 0x20) := by
    funext c
    cases broken : isIgnored c with
    | false => rfl
    | true =>
        simp only [isIgnored, Bool.or_eq_true, beq_iff_eq] at broken
        rcases broken with (rfl | rfl) | rfl <;> rfl
  have commutes (cs : List Char) :
      (cs.filter fun c => !isIgnored c).dropWhile (fun c => decide (c.toNat ≤ 0x20)) =
        (cs.dropWhile fun c => decide (c.toNat ≤ 0x20)).filter fun c => !isIgnored c := by
    rw [List.dropWhile_filter, absorbed]
  unfold cleaned withoutBreaks
  rw [String.toList_ofList]
  show ((((text.toList.filter fun c => !isIgnored c).dropWhile _).reverse.dropWhile
    _).reverse).filter _ = _
  rw [commutes, ← List.filter_reverse, commutes, ← List.filter_reverse, List.filter_filter]
  simp only [Bool.and_self]

/-! ### References that begin with a slash -/

theorem ok_of_mapError {read : Except UrlFault Url} {told : UrlFault → String}
    (done : read.mapError told = .ok url) : read = .ok url := by
  cases read with
  | error => exact nomatch done
  | ok => exact congrArg Except.ok (Except.ok.inj done)

/-- With a scheme of the web in front a reference is read as a URL, where its first slashes make no
difference. -/
theorem read_web (web : library.OfWeb url) (cs : List Char) :
    read (String.ofList (url.scheme ++ ':' :: '/' :: cs)) =
      withAuthority url.scheme
        ((cleaned (String.ofList ('/' :: cs))).dropWhile (isSlash .web)) := by
  have visible : ∀ c ∈ url.scheme ++ [':', '/'], 0x20 < c.toNat := by
    rcases web with same | same <;> rw [String.ofList_injective same] <;> simp
  have clean := cleaned_append visible (by simp) cs
  rw [List.append_assoc, List.append_assoc] at clean
  have spelt : cleaned (String.ofList (url.scheme ++ ':' :: '/' :: cs)) =
      url.scheme ++ ':' :: cleaned (String.ofList ('/' :: cs)) := by
    rw [cleaned_slash]
    exact clean
  rw [read, spelt, scheme?_web web]
  simp only [kindOf_scheme web]

variable {segments : List (List Char)}

/-- With one slash a reference has nothing in front of its path. -/
theorem parts_of_rooted (web : library.OfWeb url)
    (few : ((cleaned reference).takeWhile (isSlash .web)).length < 2)
    (done : url.rooted reference = .ok joined) :
    ∃ path query fragment, joined.parts = { url.parts with path, query, fragment } := by
  have apart : ¬kindOf url.scheme = .file := by
    rw [kindOf_scheme web]
    exact nofun
  unfold rooted at done
  split at done
  · exact nomatch done
  · simp only [if_neg apart] at done
    rw [if_neg (show ¬2 ≤ ((cleaned reference).takeWhile fun c => c == '/' || c == '\\').length from
      Nat.not_le_of_lt few)] at done
    obtain rfl := Except.ok.inj done
    exact ⟨_, _, _, rfl⟩

/-- With two slashes a reference has an authority of its own. -/
theorem rooted_of_slashes (web : library.OfWeb url) (path : url.path = .segments segments)
    (many : 2 ≤ ((cleaned reference).takeWhile (isSlash .web)).length) :
    url.rooted reference =
      withAuthority url.scheme
        (if (cleaned reference).take 2 = ['/', '/'] then (cleaned reference).drop 2
        else (cleaned reference).dropWhile (isSlash .web)) := by
  have apart : ¬kindOf url.scheme = .file := by
    rw [kindOf_scheme web]
    exact nofun
  have dropped (cs : List Char) :
      cs.drop (cs.takeWhile (isSlash .web)).length = cs.dropWhile (isSlash .web) := by
    calc cs.drop (cs.takeWhile (isSlash .web)).length
      _ = (cs.takeWhile (isSlash .web) ++ cs.dropWhile (isSlash .web)).drop
            (cs.takeWhile (isSlash .web)).length := by rw [List.takeWhile_append_dropWhile]
      _ = cs.dropWhile (isSlash .web) := List.drop_left
  unfold rooted
  rw [path]
  simp only [if_neg apart]
  rw [← dropped]
  exact if_pos many

/-- What a reference with two slashes leads to is the URL that it spells behind the scheme. -/
theorem read_of_rooted (web : library.OfWeb url) (path : url.path = .segments segments)
    {slash : Char} (second : isSlash .web slash = true)
    (done : url.rooted (String.ofList ('/' :: slash :: cs)) = .ok joined) :
    read (String.ofList (url.scheme ++ ':' :: '/' :: slash :: cs)) = .ok joined := by
  have visible : ∀ c ∈ ['/', slash], 0x20 < c.toNat := by
    simp only [isSlash, Bool.or_eq_true, beq_iff_eq, Bool.and_eq_true] at second
    rcases second with rfl | ⟨-, rfl⟩ <;> simp
  have shape : cleaned (String.ofList ('/' :: slash :: cs)) = '/' :: slash :: cleanedEnd cs :=
    cleaned_append visible (by simp) cs
  have many : 2 ≤ ((cleaned (String.ofList ('/' :: slash :: cs))).takeWhile
      (isSlash .web)).length := by
    rw [shape, List.takeWhile_cons_of_pos rfl, List.takeWhile_cons_of_pos second]
    simp
  rw [rooted_of_slashes web path many, shape] at done
  rw [read_web web, shape, List.dropWhile_cons_of_pos rfl, List.dropWhile_cons_of_pos second]
  split at done
  · rw [List.drop_succ_cons, List.drop_succ_cons, List.drop_zero] at done
    cases left : cleanedEnd cs with
    | nil =>
        rw [left] at done
        exact done
    | cons third rest =>
        rw [left] at done
        cases slash : isSlash .web third with
        | true => exact nomatch (withAuthority_slash (kindOf_scheme web) slash rest).symm.trans done
        | false => rwa [List.dropWhile_cons_of_neg (by simp [slash])]
  · rwa [List.dropWhile_cons_of_pos rfl, List.dropWhile_cons_of_pos second] at done

/-- **The library of the program meets the standard**, in what it says of references that begin with
a slash. -/
theorem standard_library : library.Standard where
  read_withoutBreaks text := by
    simp only [library, read, cleaned_withoutBreaks]
  join_withoutBreaks url reference := by
    simp only [library, rooted, cleaned_withoutBreaks]
  join_path _ web unbroken single joins := by
    refine parts_of_rooted web ?_ (ok_of_mapError joins)
    rename_i rest parsed
    rw [cleaned_slash, List.takeWhile_cons_of_pos rfl]
    obtain ⟨cut, whole⟩ := cleanedEnd_prefix unbroken
    cases left : cleanedEnd rest with
    | nil => exact Nat.one_lt_two
    | cons c cs =>
        rw [left] at whole
        have stops : isSlash .web c = false := single c (by rw [← whole]; rfl)
        rw [List.takeWhile_cons_of_neg (by simp [stops])]
        exact Nat.one_lt_two
  join_authority parsed web _ second joins := by
    obtain ⟨segments, path⟩ := exists_segments_of_read (ok_of_mapError parsed) (kindOf_scheme web)
    have reads := read_of_rooted web path second (ok_of_mapError joins)
    rw [← List.singleton_append, ← List.append_assoc, String.ofList_append,
      String.ofList_append] at reads
    have colon : String.ofList [':'] = ":" := rfl
    rw [colon] at reads
    simp only [library, parts, reads, Except.mapError]

end Url

/-! ## Moving a page -/

variable {W U : Type} {library : UrlLibrary U}
  {invoke : List String → List Json → Action W Failure Json} {close : Action W Failure Unit}
  {state told : W} {here target : String} {url : U}

/-- A function that reads or calls a path goes on as the page answers. -/
theorem Callable.runOn_invoke (path : List String) (arguments : List Json)
    (next : Except Failure Json → Callable W) (state : W) :
    ((Callable.invoke path arguments next).runOn invoke close).runOn state =
      ((next ((invoke path arguments).runOn state).1).runOn invoke close).runOn
        ((invoke path arguments).runOn state).2 :=
  Action.runOn_attempt_bind _ _ _

namespace Navigation

open UrlLibrary (namesAuthority)

/-- The page is asked for its URL, and is sent to the one that the target is read as. -/
theorem runOn_goto (answered : (invoke ["url"] []).runOn state = (.ok (.string here), told))
    (parsed : library.read here = .ok url) (start : target.toList.head? = some '/') :
    ((goto library target).runOn invoke close).runOn state =
      match library.join url target with
      | .error reason => (.error (failure reason), told)
      | .ok joined =>
        ((Callable.ofCall ["goto"] [.string (library.text joined)]).runOn invoke close).runOn
          told := by
  have reached : destination library (.string here) target =
      (library.join url target).mapError failure := by
    simp only [destination, parsed, if_pos start]
  rw [goto, Callable.runOn_invoke, answered]
  simp only [Except.bind, reached]
  cases library.join url target <;> rfl

/-- **Targets that begin with a slash.** Let a page tell a URL of the web, and let a target begin
with a slash. If the target cannot be read against the URL, the page is asked for its URL and
nothing else. Otherwise the page is sent to one URL. This has the scheme, host and port of the URL
of the page exactly if the target does not begin with two slashes, or if it spells, behind the
scheme, a URL that has them. Any library can read the URLs that does what the standard says. -/
theorem rooted_goto_exact (standard : library.Standard)
    (answered : (invoke ["url"] []).runOn state = (.ok (.string here), told))
    (parsed : library.read here = .ok url) (web : library.OfWeb url)
    (start : target.toList.head? = some '/') :
    let run := ((goto library target).runOn invoke close).runOn state
    match library.join url target with
    | .error reason => run = (.error (failure reason), told)
    | .ok joined =>
      run =
        ((Callable.ofCall ["goto"] [.string (library.text joined)]).runOn invoke close).runOn
          told ∧
      (library.SameOrigin joined url ↔ namesAuthority target = false ∨
        ∃ named, library.read ((library.parts url).scheme ++ ":" ++ target) = .ok named ∧
          library.SameOrigin named url) := by
  intro run
  have runs : run = _ := runOn_goto answered parsed start
  cases joins : library.join url target with
  | error reason =>
      rw [joins] at runs
      exact runs
  | ok joined =>
      rw [joins] at runs
      refine ⟨runs, ?_⟩
      cases spelled : namesAuthority target with
      | false => exact iff_of_true (standard.sameOrigin parsed web start joins spelled) (.inl rfl)
      | true =>
          have reads := standard.read_eq parsed web start joins spelled
          constructor
          · exact fun same => .inr ⟨joined, reads, same⟩
          · rintro (alone | ⟨named, found, same⟩)
            · exact nomatch alone
            · obtain rfl := Except.ok.inj (reads.symm.trans found)
              exact same

/-- A page that notes where it is sent. -/
def notingPage (path : List String) (arguments : List Json) :
    Action (List (List Json)) Failure Json :=
  let page : Page Unit := {}
  ((page.insert "url" (.value (.string "http://localhost:8080/about/me"))).insert "goto"
    (.method ())).invoke (fun _ arguments => do modify (· ++ [arguments]); pure .null)
    path arguments

/-- The URL of the page that notes where it is sent. -/
def notingUrl : Url :=
  { scheme := "http".toList, host := some "localhost".toList, port := some 8080
    path := .segments ["about".toList, "me".toList] }

theorem read_notingUrl : Url.library.read "http://localhost:8080/about/me" = .ok notingUrl := by
  rfl

theorem runOn_notingPage_url :
    (notingPage ["url"] []).runOn [] = (.ok (.string "http://localhost:8080/about/me"), []) :=
  rfl

theorem rooted_goto_exact_contact :
    Url.library.Standard ∧
      (notingPage ["url"] []).runOn [] = (.ok (.string "http://localhost:8080/about/me"), []) ∧
      Url.library.read "http://localhost:8080/about/me" = .ok notingUrl ∧
      Url.library.OfWeb notingUrl ∧ "/a/../contact?b".toList.head? = some '/' ∧
      namesAuthority "/a/../contact?b" = false ∧
      ∃ joined, Url.library.text joined = "http://localhost:8080/contact?b" ∧
        Url.library.SameOrigin joined notingUrl ∧
        ((goto Url.library "/a/../contact?b").runOn notingPage).runOn [] =
          (.ok (), [[.string "http://localhost:8080/contact?b"]]) := by
  have start : "/a/../contact?b".toList.head? = some '/' := rfl
  have web : Url.library.OfWeb notingUrl := .inl rfl
  have joins : Url.library.join notingUrl "/a/../contact?b" =
      .ok { notingUrl with path := .segments ["contact".toList], query := some ['b'] } := by rfl
  have exact := @rooted_goto_exact _ _ Url.library _ (pure ()) _ _ _ _ _ Url.standard_library
    runOn_notingPage_url read_notingUrl web start
  rw [joins] at exact
  obtain ⟨run, same⟩ := exact
  exact ⟨Url.standard_library, runOn_notingPage_url, read_notingUrl, web, start, rfl, _, rfl,
    same.2 (.inl rfl), run⟩

/-- **A page can be sent to another host.** The target begins with a slash, and the page is sent to
a URL whose host is not that of the page. -/
theorem rooted_goto_leaves_origin :
    ∃ passed, Url.library.Standard ∧
      Url.library.read "http://localhost:8080/about/me" = .ok notingUrl ∧
      Url.library.OfWeb notingUrl ∧ "//other.example/x".toList.head? = some '/' ∧
      ((goto Url.library "//other.example/x").runOn notingPage).runOn [] =
        (.ok (), [[.string passed]]) ∧
      passed = "http://other.example/x" ∧
      ∃ named, Url.library.read passed = .ok named ∧ ¬Url.library.SameOrigin named notingUrl := by
  have start : "//other.example/x".toList.head? = some '/' := rfl
  have joins : Url.library.join notingUrl "//other.example/x" =
      .ok { scheme := "http".toList, host := some "other.example".toList
            path := .segments [['x']] } := by rfl
  have run := @runOn_goto _ _ Url.library _ (pure ()) _ _ _ _ _ runOn_notingPage_url
    read_notingUrl start
  rw [joins] at run
  refine ⟨_, Url.standard_library, read_notingUrl, .inl rfl, start, run, rfl, _, by rfl,
    fun same => ?_⟩
  exact absurd same.host (by decide)

end Navigation

end HotReload
