import MarkupHarden.Url.Resolver

/-!
# URLs with a host

A special URL that is not a file has an authority with a host.  Reading keeps
this: whatever a reference resolves to has a host if the base has one, so that
it can change to another special scheme.
-/

namespace MarkupHarden.Url

/-- A special URL has a host. -/
def Hosted (url : Url) : Prop :=
  url.kind = .special → ∃ authority, url.authority = some authority ∧
    authority.host.isEmpty = false

theorem Hosted.of_same {url other : Url} (hosted : url.Hosted)
    (scheme : other.scheme = url.scheme)
    (authority : other.authority = url.authority) : other.Hosted := by
  intro special
  rw [kind, scheme] at special
  rw [authority]
  exact hosted special

theorem hosted_of_kind_ne {url : Url} (ordinary : url.kind ≠ .special) :
    url.Hosted :=
  fun special => absurd special ordinary

/-! ### Parts behind the authority -/

theorem withFragmentFrom_eq (url : Url) (input : List Char) :
    (withFragmentFrom url input).scheme = url.scheme ∧
      (withFragmentFrom url input).authority = url.authority := by
  unfold withFragmentFrom
  split <;> exact ⟨rfl, rfl⟩

theorem withQueryFrom_eq (url : Url) (input : List Char) :
    (withQueryFrom url input).scheme = url.scheme ∧
      (withQueryFrom url input).authority = url.authority := by
  unfold withQueryFrom
  split
  · exact withFragmentFrom_eq _ _
  · exact withFragmentFrom_eq _ _

theorem withBrokenPathFrom_eq (breaks : List Nat) (url : Url)
    (path input : List Char) :
    (withBrokenPathFrom breaks url path input).scheme = url.scheme ∧
      (withBrokenPathFrom breaks url path input).authority = url.authority :=
  withQueryFrom_eq _ _

theorem withRootedPathFrom_eq (url : Url) (input : List Char) :
    (withRootedPathFrom url input).scheme = url.scheme ∧
      (withRootedPathFrom url input).authority = url.authority := by
  unfold withRootedPathFrom
  split
  · split <;> exact withBrokenPathFrom_eq _ _ _ _
  · split <;> exact withBrokenPathFrom_eq _ _ _ _

/-! ### Hosts -/

theorem Host.isEmpty_named_ofList {chars : List Char} (nonempty : chars ≠ []) :
    (Host.named (String.ofList chars)).isEmpty = false := by
  simp [Host.isEmpty, String.ofList_eq_empty_iff, nonempty]

theorem Host.isEmpty_of_parseIpv6 {chars : List Char} {host : Host}
    (read : Host.parseIpv6 chars = .ok host) : host.isEmpty = false := by
  unfold Host.parseIpv6 at read
  dsimp only at read
  split at read
  · cases read
    rfl
  · contradiction

theorem Host.isEmpty_of_parseIpv4 {chars : List Char} {host : Host}
    (read : Host.parseIpv4 chars = .ok host) : host.isEmpty = false := by
  unfold Host.parseIpv4 at read
  extract_lets parts at read
  split at read
  · contradiction
  · split at read
    · extract_lets before at read
      split at read
      · contradiction
      · cases read
        rfl
    · contradiction

/-- The host of a special URL is never empty. -/
theorem Host.isEmpty_of_parse {chars : List Char} {host : Host}
    (read : Host.parse chars = .ok host) : host.isEmpty = false := by
  unfold Host.parse at read
  split at read
  · unfold Host.bracketed at read
    split at read
    · exact Host.isEmpty_of_parseIpv6 read
    · contradiction
  · split at read
    · contradiction
    · split at read
      · contradiction
      · contradiction
      next domain nonempty _ =>
        split at read
        · exact Host.isEmpty_of_parseIpv4 read
        · cases read
          exact Host.isEmpty_named_ofList nonempty

private theorem bind_eq_ok {α β : Type} {first : Except ParseFault α}
    {next : α → Except ParseFault β} {result : β}
    (done : first >>= next = .ok result) :
    ∃ value, first = .ok value ∧ next value = .ok result := by
  cases first with
  | error fault => contradiction
  | ok value => exact ⟨value, rfl, done⟩

theorem isEmpty_of_readHostAndPort {kind : SchemeKind} {scheme : String}
    {input rest : List Char} {host : Host} {port : Option Nat}
    (special : kind.isSpecial = true)
    (read : readHostAndPort kind scheme input = .ok ((host, port), rest)) :
    host.isEmpty = false := by
  unfold readHostAndPort at read
  rcases splitHost kind false input with ⟨text, behind⟩
  simp only [special, Bool.true_and, if_true] at read
  split at read
  · contradiction
  · obtain ⟨parsed, parsedEq, read⟩ := bind_eq_ok read
    have nonempty := Host.isEmpty_of_parse parsedEq
    split at read
    · rw [if_neg (by simp [nonempty])] at read
      obtain ⟨⟨_, _⟩, _, read⟩ := bind_eq_ok read
      cases read
      exact nonempty
    · cases read
      exact nonempty

theorem hosted_of_readAuthority {scheme : String} {input : List Char}
    {url : Url} (read : readAuthority scheme input = .ok url) :
    url.Hosted := by
  unfold readAuthority at read
  obtain ⟨⟨⟨username, password⟩, afterCredentials⟩, _, read⟩ := bind_eq_ok read
  obtain ⟨⟨⟨host, port⟩, afterHost⟩, hostRead, read⟩ := bind_eq_ok read
  dsimp only at read
  split at read
  · contradiction
  · cases read
    obtain ⟨sameScheme, sameAuthority⟩ := withRootedPathFrom_eq
      { scheme, authority := some { username, password, host, port } } afterHost
    intro special
    rw [kind, sameScheme] at special
    have notEmpty := isEmpty_of_readHostAndPort
      (by rw [special]; decide) hostRead
    exact ⟨_, sameAuthority, notEmpty⟩

/-! ### References -/

theorem hosted_of_resolveReference {base url : Url} {input : List Char}
    (hosted : base.Hosted) (read : resolveReference base input = .ok url) :
    url.Hosted := by
  have same : ∀ other : Url, other.scheme = base.scheme ∧
      other.authority = base.authority → other.Hosted :=
    fun other equal => hosted.of_same equal.1 equal.2
  unfold resolveReference at read
  split at read
  · cases read
    exact same _ ⟨rfl, rfl⟩
  · cases read
    exact same _ (withQueryFrom_eq _ _)
  · cases read
    exact same _ (withFragmentFrom_eq _ _)
  · split at read
    · split at read
      · split at read
        · exact hosted_of_readAuthority read
        · cases read
          exact same _ (withBrokenPathFrom_eq _ _ _ _)
      · cases read
        exact same _ (withBrokenPathFrom_eq _ _ _ _)
    · cases read
      exact same _ (withBrokenPathFrom_eq _ _ _ _)

private theorem hosted_of_file {url : Url} (file : url.scheme = "file") :
    url.Hosted :=
  hosted_of_kind_ne (by rw [kind, file]; decide)

private theorem hosted_fileUrl (breaks : List Nat) (host : Host)
    (path input : List Char) :
    (withBrokenPathFrom breaks (fileUrl host) path input).Hosted :=
  hosted_of_file (withBrokenPathFrom_eq breaks (fileUrl host) path input).1

private theorem hosted_of_readFileHost {breaks : List Nat} {input : List Char}
    {url : Url} (read : readFileHost breaks input = .ok url) : url.Hosted := by
  unfold readFileHost at read
  dsimp only at read
  split at read
  · cases read
    exact hosted_fileUrl _ _ _ _
  · split at read
    · cases read
      exact hosted_fileUrl _ _ _ _
    · obtain ⟨host, _, read⟩ := bind_eq_ok read
      split at read
      · cases read
        exact hosted_fileUrl _ _ _ _
      · cases read
        exact hosted_fileUrl _ _ _ _

private theorem hosted_readFileRoot (breaks : List Nat) (base : Option Url)
    (input : List Char) : (readFileRoot breaks base input).Hosted := by
  unfold readFileRoot
  dsimp only
  split
  · exact hosted_fileUrl _ _ _ _
  · split
    · exact hosted_fileUrl _ _ _ _
    · split
      · exact hosted_fileUrl _ _ _ _
      · exact hosted_fileUrl _ _ _ _

theorem hosted_of_readFile {breaks : List Nat} {base : Option Url}
    {input : List Char} {url : Url}
    (hosted : ∀ known, base = some known → known.Hosted)
    (read : readFile breaks base input = .ok url) : url.Hosted := by
  unfold readFile at read
  split at read
  · split at read
    · split at read
      · split at read
        · exact hosted_of_readFileHost read
        · cases read
          exact hosted_readFileRoot _ _ _
      · cases read
        exact hosted_readFileRoot _ _ _
    · split at read
      · cases read
        exact hosted_fileUrl _ _ _ _
      next known =>
        have same : ∀ other : Url, other.scheme = known.scheme ∧
            other.authority = known.authority → other.Hosted :=
          fun other equal => (hosted known rfl).of_same equal.1 equal.2
        split at read
        · cases read
          exact same _ (withQueryFrom_eq _ _)
        · split at read
          · cases read
            exact same _ (withFragmentFrom_eq _ _)
          · split at read
            · cases read
              exact hosted_fileUrl _ _ _ _
            · cases read
              exact same _ (withBrokenPathFrom_eq _ _ _ _)
  next known =>
    cases read
    exact (hosted known rfl).of_same rfl rfl
  · cases read
    exact hosted_fileUrl _ _ _ _

theorem hosted_of_readOrdinary {scheme : String} {input : List Char}
    {url : Url} (ordinary : kindOfScheme scheme ≠ .special)
    (read : readOrdinary scheme input = .ok url) : url.Hosted := by
  unfold readOrdinary at read
  split at read
  · exact hosted_of_readAuthority read
  · cases read
    refine hosted_of_kind_ne ?_
    rw [kind, withPathFrom, (withBrokenPathFrom_eq _ _ _ _).1]
    exact ordinary
  · cases read
    refine hosted_of_kind_ne ?_
    rw [kind, (withQueryFrom_eq _ _).1]
    exact ordinary

theorem hosted_of_readSpecial {base : Option Url} {scheme : String}
    {input : List Char} {url : Url}
    (hosted : ∀ known, base = some known → known.Hosted)
    (read : readSpecial base scheme input = .ok url) : url.Hosted := by
  unfold readSpecial at read
  dsimp only at read
  split at read
  · exact hosted_of_readAuthority read
  next known =>
    split at read
    · exact hosted_of_resolveReference (hosted known rfl) read
    · exact hosted_of_readAuthority read

/-- What a text resolves to has a host if the base has one. -/
theorem hosted_of_parse {base : Option Url} {text : String} {url : Url}
    (hosted : ∀ known, base = some known → known.Hosted)
    (read : parse base text = .ok url) : url.Hosted := by
  unfold parse at read
  dsimp only at read
  split at read
  · split at read
    · refine hosted_of_readFile ?_ read
      intro known found
      exact hosted known (Option.eq_some_of_filter_eq_some found)
    · exact hosted_of_readSpecial hosted read
    next ordinary =>
      exact hosted_of_readOrdinary (by rw [ordinary]; decide) read
  · split at read
    · contradiction
    next known =>
      split at read
      · cases read
        exact (hosted known rfl).of_same (withFragmentFrom_eq _ _).1
          (withFragmentFrom_eq _ _).2
      · split at read
        · contradiction
        · split at read
          · exact hosted_of_readFile hosted read
          · exact hosted_of_resolveReference (hosted known rfl) read

/-- A URL read without a base has a host. -/
theorem hosted_of_parse_none {text : String} {url : Url}
    (read : parse none text = .ok url) : url.Hosted :=
  hosted_of_parse (fun _ impossible => by contradiction) read

theorem Resolver.hosted_of_ofBase {text : String} {resolver : Resolver}
    (made : Resolver.ofBase text = .ok resolver) {base : Url}
    (isBase : resolver.base = some base) : base.Hosted := by
  unfold Resolver.ofBase at made
  split at made
  · contradiction
  next url read =>
    split at made
    · contradiction
    · cases made
      cases isBase
      exact hosted_of_parse_none read

/-! ### Another scheme -/

theorem Hosted.withSpecialScheme? {url : Url} (hosted : url.Hosted)
    (special : url.kind = .special) (scheme : String) :
    ∃ changed, url.withSpecialScheme? scheme = some changed := by
  obtain ⟨authority, present, nonempty⟩ := hosted special
  simp [Url.withSpecialScheme?, present, nonempty]

end MarkupHarden.Url
