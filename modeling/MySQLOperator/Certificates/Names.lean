import MySQLOperator.Kube.Object

/-!
# Names of the certificates and their secrets

Each of `ensureServerCert`, `ensureClientCert` and `ensureExporterClientCert` names its
`Certificate`, and the `Secret` that cert-manager issues into, `fmt.Sprintf("%s-%s", name, suffix)`
with the purpose's suffix. The suffixes are constants of the API package, not under `src/`; the
spec gives them as `server`, `client` and `exporter-client`.

The map from an instance and a purpose to a name is not injective: `exporter-client` ends in
`-client`, so the instance `n-exporter`'s client certificate and `n`'s exporter client certificate
are both `n-exporter-client`. `certificateName_eq_iff` shows that this is the only collision: the
tails of two names with different suffixes are comparable only for that pair, and equal tails
cancel.
-/

namespace MySQLOperator

/-- Modelled from the spec: `api.MySQLServerCertSuffix`, not under `src/`. -/
def MySQLServerCertSuffix : String := "server"

/-- Modelled from the spec: `api.MySQLClientCertSuffix`, not under `src/`. -/
def MySQLClientCertSuffix : String := "client"

/-- Modelled from the spec: `api.MySQLExporterClientCertSuffix`, not under `src/`. -/
def MySQLExporterClientCertSuffix : String := "exporter-client"

/-- The three certificates of an instance. -/
inductive Purpose where
  | server
  | client
  | exporterClient
  deriving DecidableEq, Repr

/-- The suffix of a purpose's certificate and secret. -/
def Purpose.suffix : Purpose → String
  | .server => MySQLServerCertSuffix
  | .client => MySQLClientCertSuffix
  | .exporterClient => MySQLExporterClientCertSuffix

/-- `fmt.Sprintf("%s-%s", name, suffix)`, the name of a certificate and of its secret. -/
def certificateName (name suffix : String) : String := name ++ "-" ++ suffix

/-- A DNS-1123 label: one to 63 lower-case letters, digits and `-`, starting and ending with a
letter or a digit. It is the strictest rule for a Kubernetes object name, so every such name is a
valid name of a `MySQL` object. -/
def isDNS1123Label (s : String) : Bool :=
  let alnum (c : Char) := c.isLower || c.isDigit
  0 < s.length && s.length ≤ 63 && s.data.all (fun c => alnum c || c == '-') &&
    (s.data.head?.map alnum).getD false && (s.data.getLast?.map alnum).getD false

/-- The characters of a certificate name. -/
theorem certificateName_data (name suffix : String) :
    (certificateName name suffix).data = name.data ++ ('-' :: suffix.data) := by
  simp [certificateName]

/-- Two lists that end a common list are one a suffix of the other. -/
theorem suffix_or_suffix_of_append_eq {a b s t : List Char} (h : a ++ s = b ++ t) :
    s <:+ t ∨ t <:+ s :=
  List.suffix_or_suffix_of_suffix (h ▸ List.suffix_append a s) (List.suffix_append b t)

/-- Certificate names of two instances and purposes coincide only for equal pairs, and for the
instance `n-exporter`'s client certificate against `n`'s exporter client certificate. -/
theorem certificateName_eq_iff {n₁ n₂ : String} {p₁ p₂ : Purpose} :
    certificateName n₁ p₁.suffix = certificateName n₂ p₂.suffix ↔
      (n₁ = n₂ ∧ p₁ = p₂) ∨
        (n₁ = n₂ ++ "-exporter" ∧ p₁ = .client ∧ p₂ = .exporterClient) ∨
        (n₂ = n₁ ++ "-exporter" ∧ p₁ = .exporterClient ∧ p₂ = .client) := by
  -- `n-exporter-client` read both ways
  have hsplit : ('-' :: MySQLExporterClientCertSuffix.data) =
      "-exporter".data ++ ('-' :: MySQLClientCertSuffix.data) := by decide
  constructor
  · intro h
    have hd := congrArg String.data h
    rw [certificateName_data, certificateName_data] at hd
    have hs := suffix_or_suffix_of_append_eq hd
    cases p₁ <;> cases p₂ <;> simp only [Purpose.suffix] at hd hs
    all_goals first
      | exact absurd hs (by decide)
      | exact .inl ⟨String.ext (List.append_cancel_right hd), rfl⟩
      | skip
    · -- `n₁-client = n₂-exporter-client`
      rw [hsplit, ← List.append_assoc] at hd
      exact .inr (.inl ⟨String.ext (by simpa using List.append_cancel_right hd), rfl, rfl⟩)
    · -- `n₁-exporter-client = n₂-client`
      rw [hsplit, ← List.append_assoc] at hd
      exact .inr (.inr ⟨String.ext (by simpa using (List.append_cancel_right hd).symm), rfl, rfl⟩)
  · rintro (⟨rfl, rfl⟩ | ⟨rfl, rfl, rfl⟩ | ⟨rfl, rfl, rfl⟩)
    · rfl
    all_goals
      apply String.ext
      simp only [certificateName_data, Purpose.suffix, hsplit, String.data_append,
        List.append_assoc]

end MySQLOperator
