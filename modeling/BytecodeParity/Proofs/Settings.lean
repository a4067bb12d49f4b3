import BytecodeParity.Proofs.AddressBook
import BytecodeParity.Proofs.Json.Printing
import BytecodeParity.Settings.Loading
/-!
# Settings survive being saved

Settings that were read are `Storable`: the endpoints stand in the order of their chain ids, which
fit into 64 bits as the timeout does. **What is storable is read back from its text**
(`parse_render`).

To load settings is more than to read them: a key that is missing is taken from the environment, and
a tilde becomes the home directory (`Completes`). Neither changes anything when it is done again
(`Completes.again`), as long as the home directory does not begin with a tilde itself. Hence
**settings that were loaded and saved are loaded again as they were** (`save_lossless`).
-/

namespace BytecodeParity.Settings

open Json Json.Reader

variable {fs fs' : Files.Tree} {env : Environment} {path expanded : String} {s s' : Settings}

/-! ## What can be read back -/

theorem delimited_fields : ∀ f ∈ layout.fields, ∀ s, Delimited (f.read s) := by
  have htext (expected : String) := (delimited_text expected).optional
  simp only [layout, List.forall_mem_cons]
  exact ⟨fun s => (delimited_map _ local_nat64Name (delimited_text _)).bind,
    fun s => (htext _).bind, fun s => delimited_nat64.bind, fun s => (htext _).bind, by simp⟩

/-- Settings that a text can hold. -/
structure Storable (s : Settings) : Prop where
  ascending : s.rpcUrls.Ascending
  chainId_lt : ∀ chainId ∈ s.rpcUrls.keys, chainId < UInt64.size
  timeout_lt : s.timeout < UInt64.size

theorem storable_default : Storable default where
  ascending := by simp [default, OrderedMap.Ascending, OrderedMap.keys]
  chainId_lt := by decide
  timeout_lt := by decide

theorem fields_storable : ∀ f ∈ layout.fields, ∀ s, Storable s → Gives (f.read s) Storable := by
  simp only [layout, List.forall_mem_cons]
  refine ⟨fun s hs => ?_, fun s hs => .bind fun _ => .pure ⟨hs.1, hs.2, hs.3⟩,
    fun s hs => .bind_of gives_nat64 fun n hn => .pure ⟨hs.1, hs.2, hn⟩,
    fun s hs => .bind fun _ => .pure ⟨hs.1, hs.2, hs.3⟩, by simp⟩
  intro t s' t' h
  obtain ⟨m, u, hm, h⟩ := bind_eq_ok.mp h
  obtain ⟨⟩ := h
  exact ⟨gives_map _ _ _ _ hm, gives_forall_keys gives_nat64Name _ _ _ _ hm, hs.3⟩

theorem storable_of_parse {text : String} (h : parse text = .ok s) : Storable s :=
  Layout.forall_of_parse (fun f hf s => (delimited_fields f hf s).advances) storable_default
    fields_storable (mapError_eq_ok_iff.mp h)

/-! ## Reading what was printed -/

theorem takes_optionalText (expected indent : String) (o : Option String) :
    Takes (optional (text expected)) (prettyAt indent (optionalText o)).toList o := by
  cases o with
  | none =>
    rw [optionalText, prettyAt]
    exact ⟨[], by simp; rfl⟩
  | some s =>
    obtain ⟨rest, h⟩ := takes_text expected s
    rw [optionalText, prettyAt]
    refine ⟨rest, ?_⟩
    rw [toList_quote] at h ⊢
    exact bind_eq_ok.mpr ⟨_, _, rfl, bind_eq_ok.mpr ⟨s, rest, h, rfl⟩⟩

theorem takes_timeout (indent : String) {n : Nat} (h : n < UInt64.size) :
    Takes nat64 (prettyAt indent (.number (.integer n))).toList n := by
  rw [toList_prettyAt_integer, if_neg (by omega), Int.natAbs_natCast]
  exact takes_nat64 h

theorem takes_rpcUrls (hs : Storable s) :
    Takes (map (depthLimit - 1) nat64Name (text "a string"))
      (prettyAt "  " (.object (s.rpcUrls.map fun e => (toString e.1, .string e.2)))).toList
      s.rpcUrls := by
  have htakes : Takes (map (depthLimit - 1) nat64Name (text "a string"))
      (prettyAt "  " (.object (s.rpcUrls.map fun e => (toString e.1, .string e.2)))).toList
      (OrderedMap.ofList s.rpcUrls) := by
    refine takes_map (by decide) local_nat64Name (delimited_text _) ?_ ?_ ?_
    · simp [Blank, isBlank]
    · exact fun e he => takes_nat64Name (hs.chainId_lt e.1 (List.mem_map_of_mem he))
    · exact fun e _ => takes_text _ e.2
  rwa [OrderedMap.ofList_eq_self hs.ascending] at htakes

/-- **Storable settings are read back from their text.** -/
theorem parse_render (hs : Storable s) : parse s.render = .ok s := by
  refine mapError_eq_ok_iff.mpr (Layout.parse_pretty_of_filled delimited_fields ?_)
  -- The members stand in the order of the fields, and none twice.
  refine .known rfl (by simp) (takes_rpcUrls hs).bind ?_
  refine .known rfl (by simp) (takes_optionalText _ _ _).bind ?_
  refine .known rfl (by simp) (takes_timeout _ hs.timeout_lt).bind ?_
  exact .known rfl (by simp) (takes_optionalText _ _ _).bind (.done rfl)

/-! ## What the environment adds -/

/-- Settings as they are loaded and those that the file holds. -/
structure Completes (env : Environment) (s s' : Settings) : Prop where
  rpcUrls_eq : s'.rpcUrls = s.rpcUrls
  timeout_eq : s'.timeout = s.timeout
  etherscanKey_eq : s'.etherscanKey = (s.etherscanKey <|> env.get? "ETHERSCAN_API_KEY")
  artifactsRoot_rel : Option.Rel (fun root root' => expandHome env root = .ok root')
    s.artifactsRoot s'.artifactsRoot

/-- What is loaded was read from a file and completed. -/
theorem of_ofFile (h : ofFile fs env path = .ok s') :
    ∃ text s, parse text = .ok s ∧ Completes env s s' := by
  unfold ofFile at h
  split at h
  · cases h
  · obtain ⟨text, -, h⟩ := bind_eq_ok_iff.mp h
    obtain ⟨s, hs, h⟩ := bind_eq_ok_iff.mp h
    refine ⟨text, s, hs, ?_⟩
    split at h
    · next hnone =>
      obtain ⟨⟩ := h
      exact ⟨rfl, rfl, rfl, by rw [hnone]; exact .none⟩
    · next root hroot =>
      obtain ⟨root', hexpand, h⟩ := bind_eq_ok_iff.mp h
      obtain ⟨⟩ := h
      exact ⟨rfl, rfl, rfl, by rw [hroot]; exact .some hexpand⟩

/-- What a file holds is loaded if it can be completed. -/
theorem ofFile_of_completes {place : List String} {text : String}
    (hplace : fs.locate path = .ok (place, .file text.toUTF8)) (hs : parse text = .ok s)
    (h : Completes env s s') : ofFile fs env path = .ok s' := by
  have hexists : fs.pathExists path = true := by
    rw [Files.Tree.pathExists, hplace]
    rfl
  have htext : String.fromUTF8? text.toUTF8 = some text := dif_pos text.isValidUTF8
  have hread : fs.readText path = .ok text :=
    Files.Tree.readText_eq_ok_iff.mpr ⟨place, _, hplace, htext⟩
  rw [ofFile, if_neg (by simp [hexists])]
  refine bind_eq_ok_iff.mpr ⟨text, mapError_eq_ok_iff.mpr hread, bind_eq_ok_iff.mpr ⟨s, hs, ?_⟩⟩
  obtain ⟨urls, key, timeout, root⟩ := s
  obtain ⟨urls', key', timeout', root'⟩ := s'
  obtain ⟨hurls, htimeout, hkey, hroot⟩ := h
  dsimp only at hurls htimeout hkey hroot
  subst hurls htimeout hkey
  cases hroot with
  | none => rfl
  | some hexpand => exact bind_eq_ok_iff.mpr ⟨_, hexpand, rfl⟩

theorem Completes.storable (h : Completes env s s') (hs : Storable s) : Storable s' where
  ascending := h.rpcUrls_eq ▸ hs.ascending
  chainId_lt := h.rpcUrls_eq ▸ hs.chainId_lt
  timeout_lt := h.timeout_eq ▸ hs.timeout_lt

theorem ne_empty_of_home? {home : String} (h : env.home? = some home) : home ≠ "" := by
  obtain ⟨-, hne⟩ := Option.filter_eq_some_iff.mp h
  simpa using hne

/-- Of a path that was expanded no tilde is left in front but that of the home directory. -/
theorem head?_of_expandHome (hhome : ∀ home, env.home? = some home → home.toList.head? ≠ some '~')
    (h : expandHome env path = .ok expanded) : expanded.toList.head? ≠ some '~' := by
  unfold expandHome at h
  split at h
  · next t ht =>
    split at h
    · cases h
    · next home heq =>
      obtain ⟨⟩ := h
      split
      · exact hhome home heq
      · -- No slash is left in front of the rest, so that it is joined to the home directory.
        have hrest : Path.isAbsolute (String.ofList (t.dropWhile (· == '/'))) = false := by
          have hhead := List.head?_dropWhile_not (· == '/') t
          rw [Path.isAbsolute, String.toList_ofList]
          cases hd : (t.dropWhile (· == '/')).head? with
          | none => rfl
          | some c => simpa [hd] using hhead
        rw [Path.head?_join (ne_empty_of_home? heq) hrest]
        exact hhome home heq
  · next hne =>
    obtain ⟨⟩ := h
    intro hhead
    obtain ⟨t, ht⟩ := List.head?_eq_some_iff.mp hhead
    exact hne t ht

theorem expandHome_of_head? (h : path.toList.head? ≠ some '~') :
    expandHome env path = .ok path := by
  unfold expandHome
  split
  · next t ht => exact absurd (by rw [ht]; rfl) h
  · rfl

/-- With a tilde in front of the home directory a path grows whenever it is expanded. -/
example : expandHome [("HOME", "~a")] "~/b" = .ok "~a/b" ∧
    expandHome [("HOME", "~a")] "~a/b" = .ok "~a/a/b" := ⟨rfl, rfl⟩

/-- **What was completed is complete.** -/
theorem Completes.again (hhome : ∀ home, env.home? = some home → home.toList.head? ≠ some '~')
    (h : Completes env s s') : Completes env s' s' where
  rpcUrls_eq := rfl
  timeout_eq := rfl
  etherscanKey_eq := by
    rw [h.etherscanKey_eq]
    cases s.etherscanKey with
    | none => cases env.get? "ETHERSCAN_API_KEY" <;> rfl
    | some key => rfl
  artifactsRoot_rel := by
    have hrel := h.artifactsRoot_rel
    generalize s.artifactsRoot = root, s'.artifactsRoot = root' at hrel ⊢
    cases hrel with
    | none => exact .none
    | some hroot => exact .some (expandHome_of_head? (head?_of_expandHome hhome hroot))

/-! ## Saved and loaded -/

/-- **Settings that were loaded and saved are loaded again as they were**, from wherever they came
and wherever a file can be written. -/
theorem save_lossless {fs₁ fs₁' : Files.Tree} {path' : String} {content : ByteArray}
    (hhome : ∀ home, env.home? = some home → home.toList.head? ≠ some '~')
    (hload : ofFile fs env path = .ok s) (hwritable : fs₁.write path' content = .ok fs₁') :
    ∃ fs₂, save fs₁ path' s = .ok fs₂ ∧ ofFile fs₂ env path' = .ok s := by
  obtain ⟨text, s₀, hparse, hcompletes⟩ := of_ofFile hload
  have hs : Storable s := hcompletes.storable (storable_of_parse hparse)
  obtain ⟨fs₂, place, hwrite, hwrote⟩ := Files.Tree.exists_write hwritable s.render.toUTF8
  refine ⟨fs₂, mapError_eq_ok_iff.mpr hwrite, ?_⟩
  exact ofFile_of_completes hwrote.locate_eq (parse_render hs) (hcompletes.again hhome)

/-- The endpoints out of order, a tilde in the directory, and a key in the environment. -/
theorem save_lossless_tilde :
    let fs : Files.Tree := ⟨[(["settings.json"], .file <| String.toUTF8 <|
      "\x7b\"rpc_urls\": \x7b\"18446744073709551615\": \"http://b\", \"1\": \"http://a\"\x7d, " ++
        "\"artifacts_root\": \"~/artifacts\"\x7d")], []⟩
    let env : Environment := [("ETHERSCAN_API_KEY", "key"), ("HOME", "/root")]
    let s : Settings := ⟨[(1, "http://a"), (18446744073709551615, "http://b")], some "key", 60,
      some "/root/artifacts"⟩
    ofFile fs env "settings.json" = .ok s ∧
      ∃ fs₂, save fs "saved.json" s = .ok fs₂ ∧ ofFile fs₂ env "saved.json" = .ok s := by
  intro fs env s
  have hload : ofFile fs env "settings.json" = .ok s :=
    toOption_eq_some_iff.mp (by decide +kernel)
  have hhome : ∀ home, env.home? = some home → home.toList.head? ≠ some '~' := by
    rintro _ ⟨⟩
    decide
  have hwritable : fs.write "saved.json" .empty = .ok (fs.put ["saved.json"] (.file .empty)) := rfl
  exact ⟨hload, save_lossless hhome hload hwritable⟩

end BytecodeParity.Settings
