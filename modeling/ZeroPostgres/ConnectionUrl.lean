import ZeroPostgres.Opts
import ZeroPostgres.Startup.Scram
import ZeroPostgres.Lib.PercentEncoding

/-!
# Options from a connection URL

`TryFrom<&Url> for Opts`, `src/src/opts.rs:111–195`. The URL is what the `url` crate gives out:
user, password and path as they stand in the URL, still percent-encoded, and the pairs of the query
decoded. The conversion copies the former as they are. `tryFrom_ok_iff` says which URLs convert,
and `url_round_trip_iff` which users, passwords and databases come out as they were encoded.
-/

namespace ZeroPostgres

/-- The components of a `url::Url`. -/
structure Url where
  scheme : String
  username : String
  password : Option String
  hostStr : Option String
  port : Option UInt16
  path : String
  queryPairs : List (String × String)
deriving DecidableEq, Repr

/-- The options with the address and the transport. -/
structure UrlOpts extends Opts where
  host : String
  port : UInt16
  socket : Option String
  upgradeToUnixSocket : Bool
deriving DecidableEq, Repr

/-- `str::parse::<usize>`. -/
def parseUsize (text : String) : Option Nat :=
  let digits := afterPlus text.toList
  if digits ≠ [] ∧ digits.all Char.isDigit = true ∧ Nat.ofDigitChars 10 digits 0 < 2 ^ 64 then
    some (Nat.ofDigitChars 10 digits 0)
  else none

namespace UrlOpts

/-- What one pair of the query sets, lines 148–190. -/
def setParam (opts : UrlOpts) : String × String → Parsed UrlOpts
  | (key, value) =>
    if key = "sslmode" ∨ key = "ssl_mode" then
      if value = "disable" then .ok { opts with sslMode := .disable }
      else if value = "prefer" then .ok { opts with sslMode := .prefer }
      else if value = "require" then .ok { opts with sslMode := .require }
      else .err (.invalidUsage
        ("Invalid sslmode: expected one of ['disable', 'prefer', 'require'], got " ++ value))
    else if key = "application_name" then .ok { opts with applicationName := some value }
    else if key = "upgrade_to_unix_socket" then
      if value ∈ ["true", "True", "1", "yes", "on"] then
        .ok { opts with upgradeToUnixSocket := true }
      else if value ∈ ["false", "False", "0", "no", "off"] then
        .ok { opts with upgradeToUnixSocket := false }
      else .err (.invalidUsage ("Invalid upgrade_to_unix_socket parameter: " ++ value))
    else if key = "pool_max_idle_conn" then
      match parseUsize value with
      | some n => .ok { opts with poolMaxIdleConn := n }
      | none => .err (.invalidUsage ("Invalid pool_max_idle_conn: " ++ value))
    else if key = "pool_max_concurrency" then
      match parseUsize value with
      | some n => .ok { opts with poolMaxConcurrency := some n }
      | none => .err (.invalidUsage ("Invalid pool_max_concurrency: " ++ value))
    else .ok { opts with params := opts.params ++ [(key, value)] }

/-- The schemes of line 125. -/
def schemes : List String := ["pg", "postgres", "postgresql"]

/-- `url.path().strip_prefix('/')`, with nothing after the slash as no database. -/
def databaseOf (path : String) : Option String :=
  match path.toList with
  | '/' :: c :: cs => some (String.ofList (c :: cs))
  | _ => none

/-- The options before the query is read. -/
def ofComponents (url : Url) : UrlOpts :=
  { Opts.default with
    host := url.hostStr.getD "localhost"
    port := url.port.getD 5432
    socket := none
    user := url.username
    password := url.password
    database := databaseOf url.path
    upgradeToUnixSocket := true }

/-- `try_from`. -/
def tryFrom (url : Url) : Parsed UrlOpts :=
  if url.scheme ∉ schemes then
    .err (.invalidUsage ("Invalid scheme: expected 'pg://', 'postgres://', or 'postgresql://', " ++
      "got '" ++ url.scheme ++ "://'"))
  else url.queryPairs.foldlM setParam (ofComponents url)

end UrlOpts

/-! ### The query -/

namespace UrlOpts

/-- The values the known keys of the query take. -/
def Accepts (pair : String × String) : Prop :=
  (pair.1 = "sslmode" ∨ pair.1 = "ssl_mode" → pair.2 ∈ ["disable", "prefer", "require"]) ∧
  (pair.1 = "upgrade_to_unix_socket" →
    pair.2 ∈ ["true", "True", "1", "yes", "on", "false", "False", "0", "no", "off"]) ∧
  (pair.1 = "pool_max_idle_conn" ∨ pair.1 = "pool_max_concurrency" →
    (parseUsize pair.2).isSome = true)

instance (pair : String × String) : Decidable (Accepts pair) :=
  inferInstanceAs (Decidable (_ ∧ _ ∧ _))

/-- The options have the same user, password and database. -/
def SameLogin (opts opts' : UrlOpts) : Prop :=
  opts'.user = opts.user ∧ opts'.password = opts.password ∧ opts'.database = opts.database

/-- A pair is taken, and leaves the user, the password and the database alone, or refused. -/
theorem setParam_cases (opts : UrlOpts) (pair : String × String) :
    (Accepts pair ∧ ∃ opts', opts.setParam pair = .ok opts' ∧ SameLogin opts opts') ∨
      (¬ Accepts pair ∧ ∃ text, opts.setParam pair = .err (.invalidUsage text)) := by
  obtain ⟨key, value⟩ := pair
  have hself : SameLogin opts opts := ⟨rfl, rfl, rfl⟩
  unfold setParam
  dsimp only
  split
  · next hkey =>
    have haccepts : Accepts (key, value) ↔ value ∈ ["disable", "prefer", "require"] := by
      rcases hkey with rfl | rfl <;> simp [Accepts]
    rw [haccepts]
    split
    · next hvalue => exact .inl ⟨by simp [hvalue], _, rfl, hself⟩
    split
    · next hvalue => exact .inl ⟨by simp [hvalue], _, rfl, hself⟩
    split
    · next hvalue => exact .inl ⟨by simp [hvalue], _, rfl, hself⟩
    · next hdisable hprefer hrequire =>
      exact .inr ⟨by simp [hdisable, hprefer, hrequire], _, rfl⟩
  next hssl =>
  split
  · next hkey =>
    subst hkey
    exact .inl ⟨by simp [Accepts], _, rfl, hself⟩
  split
  · next hkey =>
    subst hkey
    split
    · next hvalue => exact .inl ⟨by simp [Accepts] at hvalue ⊢; grind, _, rfl, hself⟩
    split
    · next hvalue => exact .inl ⟨by simp [Accepts] at hvalue ⊢; grind, _, rfl, hself⟩
    · next htrue hfalse =>
      exact .inr ⟨by simp [Accepts] at htrue hfalse ⊢; grind, _, rfl⟩
  next hname hupgrade =>
  split
  · next hkey =>
    subst hkey
    split
    · next n hn => exact .inl ⟨by simp [Accepts, hn], _, rfl, hself⟩
    · next hn => exact .inr ⟨by simp [Accepts, hn], _, rfl⟩
  next hidle =>
  split
  · next hkey =>
    subst hkey
    split
    · next n hn => exact .inl ⟨by simp [Accepts, hn], _, rfl, hself⟩
    · next hn => exact .inr ⟨by simp [Accepts, hn], _, rfl⟩
  next hconcurrency =>
  exact .inl ⟨⟨fun h => absurd h hssl, fun h => absurd h hupgrade,
    fun h => absurd h (not_or.mpr ⟨hidle, hconcurrency⟩)⟩, _, rfl, hself⟩

/-- The pairs are taken up to the first that is refused. -/
theorem setParams_cases (pairs : List (String × String)) (opts : UrlOpts) :
    ((∀ pair ∈ pairs, Accepts pair) ∧
      ∃ opts', pairs.foldlM setParam opts = .ok opts' ∧ SameLogin opts opts') ∨
    ((∃ pair ∈ pairs, ¬ Accepts pair) ∧
      ∃ text, pairs.foldlM setParam opts = .err (.invalidUsage text)) := by
  induction pairs generalizing opts with
  | nil => exact .inl ⟨fun pair h => absurd h List.not_mem_nil, opts, rfl, rfl, rfl, rfl⟩
  | cons pair pairs ih =>
    rw [List.foldlM_cons]
    rcases setParam_cases opts pair with ⟨haccepts, next, hnext, hsame⟩ | ⟨hrefuses, text, hfail⟩
    · rw [hnext, Outcome.bind_ok]
      rcases ih next with ⟨hall, last, hlast, hsame'⟩ | ⟨⟨bad, hmem, hbad⟩, text, hfail⟩
      · refine .inl ⟨List.forall_mem_cons.mpr ⟨haccepts, hall⟩, last, hlast, ?_⟩
        exact ⟨hsame'.1.trans hsame.1, hsame'.2.1.trans hsame.2.1, hsame'.2.2.trans hsame.2.2⟩
      · exact .inr ⟨⟨bad, List.mem_cons_of_mem _ hmem, hbad⟩, text, hfail⟩
    · rw [hfail, Outcome.bind_err]
      exact .inr ⟨⟨pair, List.mem_cons_self, hrefuses⟩, text, rfl⟩

/-- A URL with a known scheme and a query of known values converts, to the user, the password and
the path as they stand in it. -/
theorem tryFrom_ok {url : Url} (hscheme : url.scheme ∈ schemes)
    (hquery : ∀ pair ∈ url.queryPairs, Accepts pair) :
    ∃ opts, tryFrom url = .ok opts ∧ opts.user = url.username ∧ opts.password = url.password ∧
      opts.database = databaseOf url.path := by
  rw [tryFrom, if_neg (not_not_intro hscheme)]
  rcases setParams_cases url.queryPairs (ofComponents url) with
    ⟨-, opts, hopts, hsame⟩ | ⟨⟨pair, hmem, hrefuses⟩, -⟩
  · exact ⟨opts, hopts, hsame⟩
  · exact absurd (hquery pair hmem) hrefuses

end UrlOpts

/-! ### The round trip -/

/-- A text percent-encoded. -/
def percentEncode (s : String) : String := String.ofList (PercentEncoding.encode s.toList)

/-- The text has nothing to encode. -/
def Plain (s : String) : Prop := ∀ c ∈ s.toList, PercentEncoding.unreserved c = true

instance (s : String) : Decidable (Plain s) := inferInstanceAs (Decidable (∀ c ∈ s.toList, _))

theorem percentEncode_eq_self_iff {s : String} : percentEncode s = s ↔ Plain s := by
  rw [Plain, ← PercentEncoding.encode_eq_self_iff, percentEncode, ← String.toList_inj,
    String.toList_ofList]

/-- The URL of a user, a password and a database. An empty password may be left out. -/
structure Url.Encodes (url : Url) (user password database : String) : Prop where
  scheme : url.scheme ∈ UrlOpts.schemes
  username : url.username = percentEncode user
  password : url.password.getD "" = percentEncode password
  path : url.path = "/" ++ percentEncode database
  query : ∀ pair ∈ url.queryPairs, UrlOpts.Accepts pair

/-- The options are those of a user, a password and a database, none standing for an empty one. -/
structure UrlOpts.Carries (opts : UrlOpts) (user password database : String) : Prop where
  user : opts.user = user
  password : opts.password.getD "" = password
  database : opts.database.getD "" = database

theorem UrlOpts.databaseOf_slash (s : String) : (databaseOf ("/" ++ s)).getD "" = s := by
  have hpath : ("/" ++ s).toList = '/' :: s.toList := by
    rw [String.toList_append]
    rfl
  rw [databaseOf, hpath, ← String.toList_inj]
  cases s.toList with
  | nil => rfl
  | cons c cs => exact String.toList_ofList

/-- The options carry what was encoded if and only if nothing had to be. -/
theorem url_round_trip_iff {url : Url} {user password database : String}
    (h : url.Encodes user password database) :
    (∃ opts, UrlOpts.tryFrom url = .ok opts ∧ opts.Carries user password database) ↔
      Plain user ∧ Plain password ∧ Plain database := by
  obtain ⟨opts, hopts, huser, hpassword, hdatabase⟩ := UrlOpts.tryFrom_ok h.scheme h.query
  rw [hopts, ← percentEncode_eq_self_iff, ← percentEncode_eq_self_iff,
    ← percentEncode_eq_self_iff, ← h.username, ← h.password, ← huser, ← hpassword]
  have hpath : opts.database.getD "" = percentEncode database := by
    rw [hdatabase, h.path, UrlOpts.databaseOf_slash]
  rw [← hpath]
  constructor
  · rintro ⟨opts', heq, hcarries⟩
    cases heq
    exact ⟨hcarries.user, hcarries.password, hcarries.database⟩
  · rintro ⟨huser, hpassword, hdatabase⟩
    exact ⟨opts, rfl, huser, hpassword, hdatabase⟩

/-- A URL on a host with nothing in its query. -/
def loginUrl (user password database : String) : Url :=
  { scheme := "postgres", username := percentEncode user
    password := some (percentEncode password), hostStr := some "localhost", port := none
    path := "/" ++ percentEncode database, queryPairs := [] }

theorem loginUrl_encodes (user password database : String) :
    (loginUrl user password database).Encodes user password database :=
  ⟨by simp [loginUrl, UrlOpts.schemes], rfl, rfl, rfl, fun _ h => absurd h List.not_mem_nil⟩

theorem url_round_trip_postgres :
    (∃ opts, UrlOpts.tryFrom (loginUrl "postgres" "s3cret" "app_db") = .ok opts ∧
      opts.Carries "postgres" "s3cret" "app_db") := by
  refine (url_round_trip_iff (loginUrl_encodes _ _ _)).mpr ⟨?_, ?_, ?_⟩ <;>
    simp [Plain, PercentEncoding.unreserved]

/-- An at sign in a password arrives as it was encoded. -/
theorem url_keeps_encoding :
    (loginUrl "postgres" "p@ss" "app_db").Encodes "postgres" "p@ss" "app_db" ∧
    (∃ opts, UrlOpts.tryFrom (loginUrl "postgres" "p@ss" "app_db") = .ok opts ∧
      opts.password = some "p%40ss") ∧
    ¬ ∃ opts, UrlOpts.tryFrom (loginUrl "postgres" "p@ss" "app_db") = .ok opts ∧
      opts.Carries "postgres" "p@ss" "app_db" := by
  have hopts : ∃ opts, UrlOpts.tryFrom (loginUrl "postgres" "p@ss" "app_db") = .ok opts ∧
      opts.password = some "p%40ss" := ⟨_, rfl, by decide +kernel⟩
  refine ⟨loginUrl_encodes _ _ _, hopts, ?_⟩
  rintro ⟨opts, hok, hcarries⟩
  obtain ⟨opts', hok', hpassword⟩ := hopts
  rw [hok, Outcome.ok.injEq] at hok'
  subst hok'
  have hsame := hcarries.password
  rw [hpassword] at hsame
  revert hsame
  decide

end ZeroPostgres
