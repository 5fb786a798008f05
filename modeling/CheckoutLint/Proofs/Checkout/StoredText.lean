import CheckoutLint.Checkout
import CheckoutLint.Proofs.Octets.Agreement
import CheckoutLint.Proofs.Pass.Selection

/-!
What the two scans of documentation find in files as they are stored. A pass reads a file lossily
and scans the text; the warnings are those of the scan of the bytes themselves, so bytes that are no
well-formed text neither make nor hide nor change a warning.

* `materialize_of_read`: materializing a file that only its text is asked of.
* `run_eq_octet_scan`: the outcome of a pass, said of the stored bytes.
-/

namespace CheckoutLint.Checkout

/-- The documentation files of a checkout, in order. -/
def documents (checkout : Checkout) : List Candidate :=
  checkout.candidates.filter fun file => isDocumentation file.baseName

/-- The documentation files are on disk with these bytes, by path. -/
def Stores (checkout : Checkout) (disk : Disk) (stored : Text → List UInt8) : Prop :=
  ∀ file ∈ checkout.documents,
    disk.read checkout.cwd (checkout.sourcePath file.path) = .ok (stored file.path)

/-- A file that needs its text alone gets that of the bytes on the disk, and nothing changes. -/
theorem materialize_of_read {checkout : Checkout} {file : Candidate} {workspace : Workspace}
    {bytes : List UInt8} (needs : file.needs = { contents := true }) (unread : file.contents = none)
    (read : workspace.disk.read checkout.cwd (checkout.sourcePath file.path) = .ok bytes) :
    checkout.materialize file workspace =
      (.ok { file with contents := some (Text.decodeLossy bytes) }, workspace) := by
  simp [materialize, needs, unread, read]

theorem fresh_of_mem_candidates {checkout : Checkout} {file : Candidate}
    (mem : file ∈ checkout.candidates) : file.contents = none ∧ file.needs = {} := by
  obtain ⟨⟨path, number⟩, -, rfl⟩ := List.mem_map.1 mem
  exact ⟨rfl, rfl⟩

/-- A documentation file as it is after a pass that asked for its text. -/
def loaded (stored : Text → List UInt8) (file : Candidate) : Candidate :=
  { file with
    contents := some (Text.decodeLossy (stored file.path))
    needs := { contents := true } }

/-- A pass of a scan that looks at documentation scans what lossy reading makes of the files. -/
theorem run_of_stores {checkout : Checkout} {workspace : Workspace} {stored : Text → List UInt8}
    (stores : checkout.Stores workspace.disk stored) (launch : Launcher Workspace)
    (accepted : List Candidate) {scan : Scan}
    (looks : ∀ file, (Checker.scan scan).accepts file = isDocumentation file.baseName)
    (requires : (Checker.scan scan).require {} = { contents := true }) :
    ((⟨.scan scan, accepted⟩ : Inspection).run checkout.source launch workspace).1.1 =
      Outcome.ofResult (.scan scan)
        (.ok (checkout.documents.flatMap fun file => scan.warnings (loaded stored file))) := by
  have selected : (Checker.scan scan).selection checkout.candidates =
      checkout.documents.map fun file => { file with needs := { contents := true } } := by
    have chosen : checkout.candidates.filter (Checker.scan scan).accepts = checkout.documents :=
      List.filter_congr fun file _ => looks file
    rw [Checker.selection, chosen]
    apply List.map_congr_left
    intro file mem
    have fresh := fresh_of_mem_candidates (List.mem_filter.1 mem).1
    rw [Checker.taken, fresh.2, requires]
  have readable : ∀ file ∈ (Checker.scan scan).selection checkout.candidates,
      file.needs = { contents := true } ∧ file.contents = none ∧
        workspace.disk.read checkout.cwd (checkout.sourcePath file.path) =
          .ok (stored file.path) := by
    intro file mem
    rw [selected] at mem
    obtain ⟨document, found, rfl⟩ := List.mem_map.1 mem
    have fresh := fresh_of_mem_candidates (List.mem_filter.1 found).1
    exact ⟨rfl, fresh.1, stores document found⟩
  have ok : ∀ file ∈ (Checker.scan scan).selection checkout.candidates,
      checkout.source.materialize file workspace =
        (.ok { file with contents := some (Text.decodeLossy (stored file.path)) }, workspace) := by
    intro file mem
    obtain ⟨needs, unread, read⟩ := readable file mem
    exact materialize_of_read needs unread read
  have materialized := Source.materializeAll_of_forall_ok ok
  rw [Inspection.run_eq_of_materialized launch materialized, Inspection.check_scan launch _ rfl]
  simp only [selected, List.map_map, List.flatMap_map]
  rfl

/-- Malformed bytes make no difference: what the two scans of documentation say of a text that was
read lossily is what they say of its bytes, and so a pass over a checkout says of every file what a
scan of its bytes says. -/
theorem run_eq_octet_scan :
    (∀ path bytes,
      Acronym.warnings path (Text.decodeLossy bytes) = Octets.acronymWarnings path bytes ∧
        VariableTypo.warnings path (Text.decodeLossy bytes) =
          Octets.variableWarnings path bytes) ∧
      ∀ (checkout : Checkout) (workspace : Workspace) (stored : Text → List UInt8),
        checkout.Stores workspace.disk stored →
        ∀ (launch : Launcher Workspace) (accepted : List Candidate),
          ((⟨.scan .acronyms, accepted⟩ : Inspection).run checkout.source launch workspace).1.1 =
              Outcome.ofResult (.scan .acronyms) (.ok (checkout.documents.flatMap fun file =>
                Octets.acronymWarnings file.path (stored file.path))) ∧
            ((⟨.scan .variables, accepted⟩ : Inspection).run
                checkout.source launch workspace).1.1 =
              Outcome.ofResult (.scan .variables) (.ok (checkout.documents.flatMap fun file =>
                Octets.variableWarnings file.path (stored file.path))) := by
  refine ⟨fun path bytes => ⟨acronymWarnings_decodeLossy path bytes,
    variableWarnings_decodeLossy path bytes⟩, ?_⟩
  intro checkout workspace stored stores launch accepted
  have acronyms (file : Candidate) : Scan.acronyms.warnings (loaded stored file) =
      Octets.acronymWarnings file.path (stored file.path) :=
    acronymWarnings_decodeLossy file.path (stored file.path)
  have references (file : Candidate) : Scan.variables.warnings (loaded stored file) =
      Octets.variableWarnings file.path (stored file.path) :=
    variableWarnings_decodeLossy file.path (stored file.path)
  rw [run_of_stores stores launch accepted (fun _ => rfl) rfl,
    run_of_stores stores launch accepted (fun _ => rfl) rfl]
  simp only [acronyms, references, and_self]

/-! ## A page with malformed bytes -/

/-- Two lines, the first of which ends in a truncated sequence, the second in a stray byte. -/
def brokenBytes : List UInt8 :=
  Text.utf8 "gnu ".toList ++ [0xE2, 0x82, 0x0A] ++ Text.utf8 "$PAHT".toList ++ [0x80]

/-- A disk whose only file is a page with these bytes. -/
def brokenDisk : Disk :=
  ⟨.directory
    [(Text.utf8 "r".toList, .directory [(Text.utf8 "TODO".toList, .file brokenBytes false)])]⟩

/-- The checkout of this page. -/
def brokenCheckout : Checkout := ⟨Text.utf8 "/r".toList, [], "/s".toList, ["TODO".toList]⟩

theorem documents_brokenCheckout :
    brokenCheckout.documents = [Candidate.ofPaths "/s/0-TODO".toList "TODO".toList] := by
  decide

theorem stores_brokenCheckout : brokenCheckout.Stores brokenDisk fun _ => brokenBytes := by
  intro file mem
  rw [documents_brokenCheckout, List.mem_singleton] at mem
  subst mem
  cbv

theorem acronymWarnings_brokenBytes :
    Octets.acronymWarnings "TODO".toList brokenBytes =
      ["TODO:1: replace gnu with GNU".toList] := by
  cbv

theorem variableWarnings_brokenBytes :
    Octets.variableWarnings "TODO".toList brokenBytes =
      ["TODO:2: $PAHT could be a misspelling of PATH".toList] := by
  have lines : Octets.lines brokenBytes =
      [[103, 110, 117, 32, 0xE2, 0x82], Text.utf8 "$PAHT".toList ++ [0x80]] := by
    decide
  have first : Octets.references [103, 110, 117, 32, 0xE2, 0x82] = [] := by
    repeat rw [Octets.references_of_not_cut (by decide)]
    rw [Octets.references]
  have cut : Octets.cutReference? (Text.utf8 "$PAHT".toList ++ [0x80]) =
      some (⟨"$PAHT".toList, ⟨"PAHT".toList, "PATH".toList⟩⟩, [0x80]) := by
    decide
  have rest : Octets.references [0x80] = [] := by
    rw [Octets.references_of_not_cut (by decide), Octets.references]
  simp only [Octets.variableWarnings, lines, List.zipIdx_cons, List.zipIdx_nil,
    List.flatMap_cons, List.flatMap_nil, first, Octets.references_of_cut cut, rest]
  decide

/-- A page with bytes that are no UTF-8: both scans find what stands between them. -/
theorem run_brokenCheckout :
    brokenCheckout.Stores brokenDisk (fun _ => brokenBytes) ∧
      ((⟨.scan .acronyms, []⟩ : Inspection).run brokenCheckout.source
          (fun _ workspace => (.error .missing, workspace)) { disk := brokenDisk }).1.1 =
        Outcome.ofResult (.scan .acronyms) (.ok ["TODO:1: replace gnu with GNU".toList]) ∧
      ((⟨.scan .variables, []⟩ : Inspection).run brokenCheckout.source
          (fun _ workspace => (.error .missing, workspace)) { disk := brokenDisk }).1.1 =
        Outcome.ofResult (.scan .variables)
          (.ok ["TODO:2: $PAHT could be a misspelling of PATH".toList]) := by
  obtain ⟨acronyms, references⟩ := run_eq_octet_scan.2 brokenCheckout { disk := brokenDisk }
    (fun _ => brokenBytes) stores_brokenCheckout
    (fun _ workspace => (.error .missing, workspace)) []
  refine ⟨stores_brokenCheckout, acronyms.trans ?_, references.trans ?_⟩
  · rw [documents_brokenCheckout, List.flatMap_singleton]
    exact congrArg (fun warnings => Outcome.ofResult (.scan .acronyms) (.ok warnings))
      acronymWarnings_brokenBytes
  · rw [documents_brokenCheckout, List.flatMap_singleton]
    exact congrArg (fun warnings => Outcome.ofResult (.scan .variables) (.ok warnings))
      variableWarnings_brokenBytes

end CheckoutLint.Checkout
