import JolCommerce.Db.SchemaProvisioner
import JolCommerce.Python.Lines
import JolCommerce.Sql.TokenLaws

/-! The onboarding command, and when the registry row it writes has the values that were given. -/

namespace JolCommerce

open Python

/-- `TenantVertical.value`. -/
def TenantVertical.value : TenantVertical → String
  | .faithCommunity => "faith_community"
  | .funeralHome => "funeral_home"
  | .cemeteryCare => "cemetery_care"

/-- The arguments of `jol-cli tenant create`, with the defaults of the parser. -/
structure TenantCreateArgs where
  slug : String
  name : String
  vertical : String
  commissionRate : String := "0.10"
  branchId : String := ""

/-- `_SLUG_RE.fullmatch`. -/
def isSlug (slug : String) : Bool :=
  2 ≤ slug.toList.length && slug.toList.length ≤ 63 &&
    slug.toList.all fun char => char.isLower || char.isDigit || char = '-'

/-- `_sql_literal(value)`. -/
def sqlLiteral (value : String) : String :=
  let doubled := value.toList.flatMap fun char => if char = '\'' then ['\'', '\''] else [char]
  "'" ++ String.ofList doubled ++ "'"

/-- The statement for the registry row. -/
def registryRow (tenantId : String) (args : TenantCreateArgs) (vertical : TenantVertical) : String :=
  "INSERT INTO public.tenants " ++
  "(tenant_id, slug, name, vertical, commission_rate, branch_id) VALUES (" ++
  sqlLiteral tenantId ++ "::UUID, " ++ sqlLiteral args.slug ++ ", " ++
  sqlLiteral args.name ++ ", " ++ sqlLiteral vertical.value ++ ", " ++
  -- The rate is the one value that stands there as it is.
  args.commissionRate ++ ", " ++ sqlLiteral args.branchId ++ ")"

/-- What a call of the command raises. -/
inductive OnboardingError where
  /-- What the provisioner raised, or a `ProvisioningError` of the command itself. -/
  | provisioner (error : ProvisionerError)
  /-- What the executor raised on the registry row. -/
  | executor (message : String)

/-- `_tenant_create(args)` up to its message, with the UUID that `uuid4` gives it; `repr` writes `!r`. -/
def tenantCreate {δ : Type} (repr : String → String) (databaseUrl : String)
    (execute : String → String → EStateM String δ Unit) (provisioner : SchemaProvisioner δ)
    (args : TenantCreateArgs) (uuid : Uuid) :
    EStateM OnboardingError (ProvisionerState δ) String := do
  if isSlug args.slug = false then
    throw (.provisioner (.provisioning ("Invalid slug " ++ repr args.slug ++
      " — must match ^[a-z0-9-]\x7b2,63\x7d$")))
  else
    match TenantVertical.parse? args.vertical with
    | none =>
      throw (.provisioner (.tenant (.valueError (repr args.vertical ++ " is not a valid TenantVertical"))))
    | some vertical =>
      if databaseUrl = "" then
        throw (.provisioner (.provisioning "JOL_DATABASE_URL is not set — refusing to provision"))
      else
        let tenant : Tenant := {
          tenantId := uuid.toStr
          slug := args.slug
          name := args.name
          vertical
          commissionRate := args.commissionRate
          branchId := args.branchId }
        let state ← get
        -- The row is written in the public schema, before the tenant has one of its own.
        match (execute (registryRow uuid.toStr args vertical) "public").run state.database with
        | .error message database =>
          set { state with database }
          throw (.executor message)
        | .ok _ database =>
          set { state with database }
          (provisioner.createTenantSchema tenant).adaptExcept .provisioner

/-- A call that is accepted hands the row to the executor, and creates the schema behind it. -/
theorem run_tenantCreate {δ : Type} {repr : String → String} {databaseUrl : String}
    {execute : String → String → EStateM String δ Unit} {provisioner : SchemaProvisioner δ}
    {args : TenantCreateArgs} {uuid : Uuid} {vertical : TenantVertical} {state : ProvisionerState δ}
    (accepted : isSlug args.slug = true) (known : TenantVertical.parse? args.vertical = some vertical)
    (configured : databaseUrl ≠ "") :
    (tenantCreate repr databaseUrl execute provisioner args uuid).run state =
      match (execute (registryRow uuid.toStr args vertical) "public").run state.database with
      | .error message database => .error (.executor message) { state with database }
      | .ok _ database =>
        ((provisioner.createTenantSchema ⟨uuid.toStr, args.slug, args.name, vertical,
          args.commissionRate, args.branchId, true⟩).adaptExcept OnboardingError.provisioner).run
          { state with database } := by
  -- All checks come before the executor is asked for the first time.
  rw [tenantCreate, if_neg (by simp [accepted]), known]
  dsimp only
  rw [if_neg configured]
  generalize registryRow uuid.toStr args vertical = row
  rw [EStateM.run_bind, EStateM.run_get]
  dsimp only
  cases (execute row "public").run state.database with
  | error message database => rfl
  | ok _ database =>
    dsimp only
    rw [EStateM.run_bind, EStateM.run_set]

namespace TenantCreateArgs

variable (args : TenantCreateArgs)

/-- The tokens of the one statement that inserts the values given, for the tokens of a rate. -/
def insertTokens (tenantId : String) (rate : List Sql.Token) : List Sql.Token :=
  let comma : Sql.Token := .symbol [',']
  [.word "INSERT".toList, .word "INTO".toList, .word "public".toList, .symbol ['.'],
    .word "tenants".toList, .symbol ['('], .word "tenant_id".toList, comma, .word "slug".toList, comma,
    .word "name".toList, comma, .word "vertical".toList, comma, .word "commission_rate".toList, comma,
    .word "branch_id".toList, .symbol [')'], .word "VALUES".toList, .symbol ['('],
    .literal tenantId.toList, .symbol [':', ':'], .word "UUID".toList, comma,
    .literal args.slug.toList, comma, .literal args.name.toList, comma,
    .literal args.vertical.toList, comma] ++ rate ++
  [comma, .literal args.branchId.toList, .symbol [')']]

/-- A statement inserts the values given: each is one value, and nothing else stands beside them. -/
def InsertedAsGiven (tenantId statement : String) : Prop :=
  -- Blanks around the rate are no part of its value.
  ∃ sign number, Sql.IsSignPart sign ∧ Sql.Padded args.commissionRate.toList (sign ++ number) ∧
    Sql.tokens statement.toList = some (args.insertTokens tenantId
      (sign.map (fun char => .symbol [char]) ++ [.number number]))

/-- A rate is a numeric constant, with a sign or without one. -/
def IsRate (rate : String) : Prop :=
  ∃ sign number, Sql.IsSignPart sign ∧ Sql.Padded rate.toList (sign ++ number) ∧ Sql.IsNumeral number

end TenantCreateArgs

/-- The member that a text denotes has that text as its value. -/
theorem TenantVertical.value_of_parse {text : String} {vertical : TenantVertical}
    (known : TenantVertical.parse? text = some vertical) : vertical.value = text := by
  -- One case for each of the three texts that are accepted.
  unfold parse? at known
  split_ifs at known with faith funeral cemetery
  · cases known
    exact faith.symm
  · cases known
    exact funeral.symm
  · cases known
    exact cemetery.symm

/-- A text put together from parts has their characters. -/
theorem toList_foldl_append (parts : List String) (first : String) :
    (parts.foldl (· ++ ·) first).toList = first.toList ++ parts.flatMap String.toList := by
  induction parts generalizing first with
  | nil => simp
  | cons part parts ih => rw [List.foldl_cons, ih, String.toList_append]; simp

/-- The parts of the statement for the registry row, in front of each other. -/
theorem registryRow_eq (tenantId : String) (args : TenantCreateArgs) (vertical : TenantVertical) :
    registryRow tenantId args vertical =
      ["(tenant_id, slug, name, vertical, commission_rate, branch_id) VALUES (", sqlLiteral tenantId,
        "::UUID, ", sqlLiteral args.slug, ", ", sqlLiteral args.name, ", ", sqlLiteral vertical.value,
        ", ", args.commissionRate, ", ", sqlLiteral args.branchId, ")"].foldl (· ++ ·)
        "INSERT INTO public.tenants " := by
  unfold registryRow
  repeat rw [List.foldl_cons]
  rw [List.foldl_nil]

/-- A quoted value is written as a literal of SQL. -/
theorem toList_sqlLiteral (value : String) :
    (sqlLiteral value).toList = '\'' :: Sql.doubled '\'' value.toList ++ ['\''] := by
  simp [sqlLiteral, Sql.doubled]

/-- It is read as the value, whatever that is, up to a quote that nothing continues. -/
theorem tokensFrom_sqlLiteral (read : List Sql.Token) (value : String) {rest : List Char}
    (single : rest.head? ≠ some '\'') (final : Sql.gapFrom false false rest = none) :
    Sql.tokensFrom read 0 ((sqlLiteral value).toList ++ rest) =
      Sql.tokensFrom (.literal value.toList :: read) 0 rest := by
  have split : (sqlLiteral value).toList ++ rest =
      '\'' :: Sql.doubled '\'' value.toList ++ '\'' :: rest := by
    simp [toList_sqlLiteral]
  rw [split, Sql.tokensFrom_literal read value.toList single final]

/-- The text in front of the values, read as tokens. -/
theorem tokensFrom_insert (rest : List Char) :
    Sql.tokensFrom [] 0 ("INSERT INTO public.tenants ".toList ++
      ("(tenant_id, slug, name, vertical, commission_rate, branch_id) VALUES (".toList ++ rest)) =
    Sql.tokensFrom [.symbol ['('], .word "VALUES".toList, .symbol [')'], .word "branch_id".toList,
      .symbol [','], .word "commission_rate".toList, .symbol [','], .word "vertical".toList,
      .symbol [','], .word "name".toList, .symbol [','], .word "slug".toList, .symbol [','],
      .word "tenant_id".toList, .symbol ['('], .word "tenants".toList, .symbol ['.'],
      .word "public".toList, .word "INTO".toList, .word "INSERT".toList] 0 rest := by
  rfl

namespace TenantCreateArgs

variable {args : TenantCreateArgs} {vertical : TenantVertical}

/-- With a numeric constant for the rate, the row is read as the insertion of the values given. -/
theorem tokensFrom_registryRow (tenantId : String)
    (known : TenantVertical.parse? args.vertical = some vertical) {sign number : List Char}
    (signed : Sql.IsSignPart sign) (padded : Sql.Padded args.commissionRate.toList (sign ++ number))
    (numeral : Sql.IsNumeral number) :
    Sql.tokensFrom [] 0 (registryRow tenantId args vertical).toList =
      some (args.insertTokens tenantId (sign.map (fun char => .symbol [char]) ++ [.number number])) := by
  -- Each value ends where its own text ends, the rate at the comma behind it.
  have rate : ∀ (read : List Sql.Token) (rest : List Char),
      Sql.tokensFrom read 0 (args.commissionRate.toList ++ (", ".toList ++ rest)) =
        Sql.tokensFrom (.symbol [','] :: .number number :: sign.map (fun char => .symbol [char]) ++ read)
          0 rest := by
    intro read rest
    rw [Sql.tokensFrom_constant read padded signed numeral rfl]
    rfl
  have value : ∀ (read : List Sql.Token) (value : String) (rest : List Char),
      Sql.tokensFrom read 0 ((sqlLiteral value).toList ++ (", ".toList ++ rest)) =
        Sql.tokensFrom (.symbol [','] :: .literal value.toList :: read) 0 rest := by
    intro read value rest
    rw [tokensFrom_sqlLiteral read value (by simp) rfl]
    rfl
  have tenant : ∀ (read : List Sql.Token) (rest : List Char),
      Sql.tokensFrom read 0 ((sqlLiteral tenantId).toList ++ ("::UUID, ".toList ++ rest)) =
        Sql.tokensFrom (.symbol [','] :: .word "UUID".toList :: .symbol [':', ':'] ::
          .literal tenantId.toList :: read) 0 rest := by
    intro read rest
    rw [tokensFrom_sqlLiteral read tenantId (by simp) rfl]
    rfl
  have last : ∀ read : List Sql.Token,
      Sql.tokensFrom read 0 ((sqlLiteral args.branchId).toList ++ ")".toList) =
        some (.symbol [')'] :: .literal args.branchId.toList :: read).reverse := by
    intro read
    rw [tokensFrom_sqlLiteral read args.branchId (by simp) rfl]
    rfl
  rw [registryRow_eq, toList_foldl_append]
  simp only [List.flatMap_cons, List.flatMap_nil, List.append_nil]
  rw [tokensFrom_insert, tenant, value, value, value, rate, last, TenantVertical.value_of_parse known]
  rcases signed with rfl | ⟨char, rfl, -⟩ <;> rfl

/-- The character zero comes into the row only with one of the texts that are not checked. -/
theorem zero_mem_registryRow (uuid : Uuid) (accepted : isSlug args.slug = true) :
    '\x00' ∈ (registryRow uuid.toStr args vertical).toList ↔ '\x00' ∈ args.name.toList ∨
      '\x00' ∈ args.commissionRate.toList ∨ '\x00' ∈ args.branchId.toList := by
  -- The fixed parts, the identifier, the slug and the vertical are made of other characters.
  have literal : ∀ value, '\x00' ∈ (sqlLiteral value).toList ↔ '\x00' ∈ value.toList := by
    intro value
    simp [toList_sqlLiteral, Sql.mem_doubled]
  have noSlug : '\x00' ∉ args.slug.toList := by
    intro member
    simp only [isSlug, Bool.and_eq_true, List.all_eq_true] at accepted
    cases accepted.2 _ member
  have noVertical : '\x00' ∉ vertical.value.toList := by
    cases vertical <;> decide +kernel
  have noId : '\x00' ∉ uuid.toStr.toList := by
    have digits : '\x00' ∉ hexText 32 uuid.value := by
      intro member
      exact absurd (printable_hexText 32 uuid.value _ member).1 (by decide)
    have taken : ∀ text : List Char, text ⊆ hexText 32 uuid.value → ∀ width, '\x00' ∉ text.take width :=
      fun text within width member => digits (within (List.mem_of_mem_take member))
    have dropped : ∀ start, (hexText 32 uuid.value).drop start ⊆ hexText 32 uuid.value :=
      fun start => List.drop_subset start _
    have last : '\x00' ∉ (hexText 32 uuid.value).drop 20 := fun member => digits (dropped 20 member)
    simp only [Uuid.toStr, String.toList_ofList, List.mem_append, List.mem_cons, not_or]
    simp [taken _ (dropped _), taken _ (List.Subset.refl _), last]
  have fixed : '\x00' ∉ "INSERT INTO public.tenants ".toList ∧
      '\x00' ∉ "(tenant_id, slug, name, vertical, commission_rate, branch_id) VALUES (".toList ∧
      '\x00' ∉ "::UUID, ".toList ∧ '\x00' ∉ ", ".toList ∧ '\x00' ∉ ")".toList := by
    decide +kernel
  rw [registryRow_eq, toList_foldl_append]
  simp only [List.flatMap_cons, List.flatMap_nil, List.append_nil, List.mem_append, literal, noSlug,
    noVertical, noId, fixed, or_false, false_or]

/-- The row has the values given exactly for the rates that are numeric constants. -/
theorem inserted_as_given_iff (uuid : Uuid) (accepted : isSlug args.slug = true)
    (known : TenantVertical.parse? args.vertical = some vertical) :
    args.InsertedAsGiven uuid.toStr (registryRow uuid.toStr args vertical) ↔
      IsRate args.commissionRate ∧ '\x00' ∉ args.name.toList ∧ '\x00' ∉ args.branchId.toList := by
  constructor
  · rintro ⟨sign, number, signed, padded, read⟩
    -- What was read as a number is one, and no text with the character zero is read at all.
    have numeral : Sql.IsNumeral number := Sql.isNumeral_of_mem_tokens read (by simp [insertTokens])
    have clean : '\x00' ∉ (registryRow uuid.toStr args vertical).toList := by
      intro member
      rw [Sql.tokens, if_pos (List.contains_iff_mem.mpr member)] at read
      cases read
    rw [zero_mem_registryRow uuid accepted] at clean
    exact ⟨⟨sign, number, signed, padded, numeral⟩, fun member => clean (.inl member),
      fun member => clean (.inr (.inr member))⟩
  · rintro ⟨⟨sign, number, signed, padded, numeral⟩, noName, noBranch⟩
    have noRate := Sql.zero_notMem_constant padded signed numeral
    have clean : '\x00' ∉ (registryRow uuid.toStr args vertical).toList := by
      simp [zero_mem_registryRow uuid accepted, noName, noRate, noBranch]
    refine ⟨sign, number, signed, padded, ?_⟩
    rw [Sql.tokens, if_neg (mt List.contains_iff_mem.mp clean)]
    exact tokensFrom_registryRow uuid.toStr known signed padded numeral

/-- A quote in the name stays a part of the name. -/
theorem inserted_as_given_default_rate :
    let args : TenantCreateArgs := ⟨"st-peters", "St. Peter's", "faith_community", "0.10", "vilnius"⟩
    args.InsertedAsGiven (Uuid.toStr ⟨1, by decide⟩)
      (registryRow (Uuid.toStr ⟨1, by decide⟩) args .faithCommunity) := by
  intro args
  have numeral : Sql.IsNumeral "0.10".toList :=
    ⟨['0'], ".10".toList, [], by decide +kernel, by decide, .inr ⟨['1', '0'], by decide +kernel, by decide⟩,
      .inl rfl, by decide +kernel⟩
  exact (inserted_as_given_iff ⟨1, by decide⟩ (by decide +kernel) (by decide +kernel)).mpr
    ⟨⟨[], "0.10".toList, .inl rfl, ⟨[], [], (List.append_nil _).symm, rfl, rfl⟩, numeral⟩, by decide +kernel,
      by decide +kernel⟩

/-- A rate that ends the row goes on with statements of its own. -/
theorem rate_ends_row :
    let args : TenantCreateArgs := ⟨"st-peters", "St. Peters", "faith_community",
      "0.10, ''); DROP TABLE public.tenants; --", ""⟩
    isSlug args.slug = true ∧ TenantVertical.parse? args.vertical = some .faithCommunity ∧
      (Sql.tokens (registryRow (Uuid.toStr ⟨1, by decide⟩) args .faithCommunity).toList).any
        (fun listed => listed.contains (.symbol [';']) && listed.contains (.word "DROP".toList)) = true ∧
      ¬args.InsertedAsGiven (Uuid.toStr ⟨1, by decide⟩)
        (registryRow (Uuid.toStr ⟨1, by decide⟩) args .faithCommunity) := by
  intro args
  have foreign : (Sql.tokens (registryRow (Uuid.toStr ⟨1, by decide⟩) args .faithCommunity).toList).any
      (fun listed => listed.contains (.symbol [';']) && listed.contains (.word "DROP".toList)) = true := by
    rw [registryRow_eq, toList_foldl_append]
    decide +kernel
  refine ⟨by decide +kernel, by decide +kernel, foreign, ?_⟩
  -- The insertion of six values has no semicolon among its tokens.
  rintro ⟨sign, number, signed, -, read⟩
  rw [read] at foreign
  have semicolon : Sql.Token.symbol [';'] ∈ args.insertTokens (Uuid.toStr ⟨1, by decide⟩)
      (sign.map (fun char => .symbol [char]) ++ [.number number]) := by
    have both := Bool.and_eq_true_iff.mp foreign
    exact List.contains_iff_mem.mp both.1
  rcases signed with rfl | ⟨char, rfl, signed⟩
  · simp [insertTokens] at semicolon
  · simp only [insertTokens, List.map_cons, List.map_nil] at semicolon
    simp at semicolon
    subst semicolon
    cases signed

end TenantCreateArgs

end JolCommerce
