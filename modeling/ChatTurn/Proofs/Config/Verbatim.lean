import ChatTurn.Proofs.Config.Field
import ChatTurn.Proofs.Config.Quoted
import ChatTurn.Proofs.Toml.Gap

namespace ChatTurn

open Ordered (get? put)
open Placeholder (Quoted)

variable {env env' : Environment} {name v v' s s' text provider : String} {pre post : List Char}
  {path : Toml.Path} {field : RemoteConfig.Field} {c d : Config} {r : RemoteConfig}

/-- In the expansion a value is due where the first quote stands, the path leads to that value, and
the second quote is not followed by a third. -/
def Placeholder.Quoted.IsDue {text : List Char} (q : Quoted name text) (env : Environment)
    (path : Toml.Path) : Prop :=
  ∃ pre post, q.Around env pre post ∧ post.head? ≠ some '"' ∧
    Toml.Parser.Due (.document [] []) (Toml.skipMark pre) path

namespace Config

theorem exists_of_parse (h : parse env text = .ok c) : ∃ out es,
    Placeholder.expand env text.toList = .ok out ∧ Toml.parse? out = some es ∧ read? es = some c := by
  unfold parse at h
  split at h
  · cases h
  · next out hout =>
      split at h
      · cases h
      · next c' hc =>
          obtain ⟨es, hes, hread⟩ := Option.bind_eq_some_iff.1 hc
          obtain ⟨_, -, rfl⟩ := map_eq_ok_iff.1 h
          exact ⟨out, es, hout, hes, hread⟩

theorem parse_differ (q : Quoted name text.toList) (hpath : field.IsPath provider path)
    (hq : q.Around env pre post) (hq' : q.Around env' pre post) (hpost : post.head? ≠ some '"')
    (hdue : Toml.Parser.Due (.document [] []) (Toml.skipMark pre) path)
    (hv : env name = some v) (hv' : env' name = some v') (hs : Toml.Spells v.toList s.toList)
    (hs' : Toml.Spells v'.toList s'.toList) (hc : parse env text = .ok c)
    (hd : parse env' text = .ok d) (hr : get? provider c.providers = some (.remote r)) :
    field.get r = some s ∧
      d = { c with providers := put provider (.remote (field.set s' r)) c.providers } := by
  obtain ⟨out, es, hout, hes, hc⟩ := exists_of_parse hc
  obtain ⟨out', fs, hout', hfs, hd⟩ := exists_of_parse hd
  obtain ⟨pre₁, post₁, hq₁, rfl⟩ := q.exists_around hv hout
  obtain ⟨pre₂, post₂, hq₂, rfl⟩ := q.exists_around hv' hout'
  obtain ⟨rfl, rfl⟩ := hq.unique hq₁
  obtain ⟨rfl, rfl⟩ := hq'.unique hq₂
  have hdiffer := Toml.parse?_gap hdue hpost hs hs' hes hfs
  rw [String.ofList_toList, String.ofList_toList] at hdiffer
  exact read?_differ hpath hdiffer hc hd hr

/-- A value without quotes and backslashes reaches its field verbatim. Whatever a value spells between
quotes is what its field holds, and if no other placeholder is for its variable, everything else is
the same for all values that spell a text. -/
theorem parse_verbatim (q : Quoted name text.toList) (hdue : q.IsDue env path)
    (hpath : field.IsPath provider path) (hv : env name = some v) (hc : parse env text = .ok c)
    (hr : get? provider c.providers = some (.remote r)) :
    ('"' ∉ v.toList → '\\' ∉ v.toList → field.get r = some v) ∧
      ∀ s, Toml.Spells v.toList s.toList → field.get r = some s ∧
        (q.IsSole → ∀ v' s' d, Toml.Spells v'.toList s'.toList →
          parse (Function.update env name (some v')) text = .ok d →
          d = { c with providers := put provider (.remote (field.set s' r)) c.providers }) := by
  obtain ⟨pre, post, hq, hpost, hdue⟩ := hdue
  have hfield : ∀ s, Toml.Spells v.toList s.toList → field.get r = some s := fun s hs =>
    (parse_differ q hpath hq hq hpost hdue hv hv hs hs hc hc hr).1
  refine ⟨fun hquote hslash => hfield v (.verbatim hquote hslash), fun s hs => ⟨hfield s hs, ?_⟩⟩
  intro hsole v' s' d hs' hd
  exact (parse_differ q hpath hq (hq.update hsole _) hpost hdue hv (Function.update_self ..) hs hs'
    hc hd hr).2

def remote? (env : Environment) (text provider : String) : Option RemoteConfig :=
  match parse env text with
  | .error _ => none
  | .ok c =>
    match get? provider c.providers with
    | some (.remote r) => some r
    | _ => none

theorem exists_of_remote? (h : remote? env text provider = some r) :
    ∃ c, parse env text = .ok c ∧ get? provider c.providers = some (.remote r) := by
  unfold remote? at h
  split at h
  · cases h
  · next c hc =>
      split at h
      · next r' hr =>
          cases h
          exact ⟨c, hc, hr⟩
      · cases h

theorem exists_of_remote?_ne {α : Type} {f : RemoteConfig → α} {a a' : α}
    (h : (remote? env text provider).map f = some a)
    (h' : (remote? env' text provider).map f = some a') (hne : a ≠ a') : ∃ c d q r,
    parse env text = .ok c ∧ get? provider c.providers = some (.remote q) ∧
      parse env' text = .ok d ∧ get? provider d.providers = some (.remote r) ∧ f q ≠ f r := by
  obtain ⟨q, hq, rfl⟩ := Option.map_eq_some_iff.1 h
  obtain ⟨r, hr, rfl⟩ := Option.map_eq_some_iff.1 h'
  obtain ⟨c, hc, hq⟩ := exists_of_remote? hq
  obtain ⟨d, hd, hr⟩ := exists_of_remote? hr
  exact ⟨c, d, q, r, hc, hq, hd, hr, hne⟩

/-- A provider of one model, with the key that the variable `X` has. -/
def keyed (model : String) : String :=
  "[inference.providers.r]\napi_key = \"\x7b\x7b env.X \x7d\x7d\"\n" ++
    "base_url = \"http://[::1]\"\ntype = \"openai_compatible\"\nmodels = [\"" ++ model ++ "\"]"

def keyedLines : List (List Char) :=
  ["base_url = \"http://[::1]\"".toList, "type = \"openai_compatible\"".toList,
    "models = [\"m\"]".toList]

def keyPath : Toml.Path := [.key "inference", .key "providers", .key "r", .key "api_key"]

def keyed.quoted : Quoted "X" (keyed "m").toList where
  before := ["[inference.providers.r]".toList.map .plain]
  left := "api_key = ".toList.map .plain
  default := none
  written := "\x7b\x7b env.X \x7d\x7d".toList
  right := []
  after := keyedLines.map (·.map .plain)
  reads := by
    have htext : (keyed "m").toList = Text.joinWith '\n' (["[inference.providers.r]".toList] ++
        ("api_key = \"".toList ++ ("\x7b\x7b env.X \x7d\x7d".toList ++ "\"".toList)) :: keyedLines) := by
      decide +kernel
    rw [htext]
    exact Placeholder.reads_of_plain (Placeholder.spells_of_read? rfl) (by decide) (by decide)
      (by decide) (by decide) (by decide) (by decide)

theorem keyed.isSole : keyed.quoted.IsSole := by
  rintro _ hs ⟨⟩
  simp [Quoted.others, keyed.quoted, keyedLines] at hs

theorem keyed.isDue (env : Environment) : keyed.quoted.IsDue env keyPath := by
  have hplain : ∀ lines : List (List Char), List.Forall₂ (Placeholder.Segment.Become env)
      (lines.map (·.map .plain)) lines := by
    intro lines
    rw [List.forall₂_map_left_iff, List.forall₂_same]
    exact fun line _ => Placeholder.become_plain env line
  refine ⟨_, _, ⟨hplain ["[inference.providers.r]".toList], Placeholder.become_plain env _,
    Placeholder.become_plain env [], hplain keyedLines⟩, by decide, ?_⟩
  have hline : Toml.Parser.line 50 [] ("[inference.providers.r]\napi_key = ".toList ++ ['"']) =
      some ((["inference", "providers", "r"], Toml.addTable ["inference", "providers", "r"]),
        "api_key = ".toList ++ ['"']) := rfl
  have hadd : Toml.addTable ["inference", "providers", "r"] [] = some [("inference", .table .implied
      [("providers", .table .implied [("r", .table .header [])])])] := rfl
  have hkey : Toml.Parser.key 50 ("api_key = ".toList ++ ['"']) =
      some (["api_key"], '=' :: " ".toList ++ ['"']) := rfl
  exact .nextLine (n := 50) rfl hline hadd (.line (n := 50) rfl hkey .here)

theorem keyed_verbatim : ∃ c r, parse (fun _ => some "k") (keyed "m") = .ok c ∧
    get? "r" c.providers = some (.remote r) ∧ r.apiKey = some "k" ∧
      ∀ v s d, Toml.Spells v.toList s.toList →
        parse (Function.update (fun _ => some "k") "X" (some v)) (keyed "m") = .ok d →
        d = { c with providers := put "r" (.remote { r with apiKey := some s }) c.providers } := by
  have hsome : (remote? (fun _ => some "k") (keyed "m") "r").map RemoteConfig.apiKey =
      some (some "k") := by decide +kernel
  obtain ⟨r, hr, -⟩ := Option.map_eq_some_iff.1 hsome
  obtain ⟨c, hc, hr⟩ := exists_of_remote? hr
  have hpath : RemoteConfig.Field.IsPath .apiKey "r" keyPath := .intro .key .key
  have hverbatim := parse_verbatim keyed.quoted (keyed.isDue fun _ => some "k") hpath rfl hc hr
  have hk : Toml.Spells "k".toList "k".toList := .verbatim (by decide) (by decide)
  exact ⟨c, r, hc, hr, hverbatim.1 (by decide) (by decide), (hverbatim.2 "k" hk).2 keyed.isSole⟩

/-- An escape in a value is read. A quote ends the string early, so that the rest of the value can be
another field. And a variable can be named twice. -/
theorem keyed_not_verbatim : keyed.quoted.IsSole ∧ (∀ env, keyed.quoted.IsDue env keyPath) ∧
    RemoteConfig.Field.IsPath .apiKey "r" keyPath ∧
    (∃ c q, parse (fun _ => some "a\\tb") (keyed "m") = .ok c ∧
      get? "r" c.providers = some (.remote q) ∧ q.apiKey ≠ some "a\\tb") ∧
    (∃ c d q r, parse (fun _ => some "a\\tb") (keyed "m") = .ok c ∧
      get? "r" c.providers = some (.remote q) ∧
      parse (fun _ => some "k\"\ntimeout_seconds = 5 #") (keyed "m") = .ok d ∧
      get? "r" d.providers = some (.remote r) ∧ q.timeout ≠ r.timeout) ∧
    ∃ c d q r, parse (fun _ => some "k") (keyed "\x7b\x7b env.X \x7d\x7d") = .ok c ∧
      get? "r" c.providers = some (.remote q) ∧
      parse (fun _ => some "l") (keyed "\x7b\x7b env.X \x7d\x7d") = .ok d ∧
      get? "r" d.providers = some (.remote r) ∧ q.models ≠ r.models := by
  have hescape : (remote? (fun _ => some "a\\tb") (keyed "m") "r").map RemoteConfig.apiKey =
      some (some "a\tb") := by decide +kernel
  obtain ⟨q, hq, hkey⟩ := Option.map_eq_some_iff.1 hescape
  obtain ⟨c, hc, hq⟩ := exists_of_remote? hq
  refine ⟨keyed.isSole, keyed.isDue, .intro .key .key, ⟨c, q, hc, hq, by rw [hkey]; decide⟩, ?_, ?_⟩
  · exact exists_of_remote?_ne (by decide +kernel) (by decide +kernel) (show none ≠ some 5 by decide)
  · exact exists_of_remote?_ne (by decide +kernel) (by decide +kernel) (show ["k"] ≠ ["l"] by decide)

end Config

end ChatTurn
