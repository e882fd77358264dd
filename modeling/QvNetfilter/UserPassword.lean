import QvNetfilter.Handshake

/-!
# The user/password message

The message of `PS_AUTH` has two fields, each behind a byte with its length. The
lengths are `std::string` sizes that are narrowed to that byte, while the whole
strings follow. The server reads the message by the grammar, and finds the
configured credentials only where both lengths fit.
-/

namespace UserPassword

open Memory Socks Mealy UdpProxy ControlChannel Handshake

section Grammar

/-- One length byte and that many bytes, with what follows them. -/
def readField : Bytes → Option (Bytes × Bytes)
  | [] => none
  | size :: rest =>
    if size.toNat ≤ rest.length then some (rest.take size.toNat, rest.drop size.toNat) else none

/-- A user/password message: version 1, the name, the password, and no more. -/
def readUserPass : Bytes → Option (Bytes × Bytes)
  | [] => none
  | version :: fields =>
    if version ≠ 1 then none
    else
      (readField fields).bind fun name =>
        (readField name.2).bind fun password =>
          if password.2 = [] then some (name.1, password.1) else none

variable {name password : Bytes}

theorem readField_append (short : name.length < 256) (rest : Bytes) :
    readField (UInt8.ofNat name.length :: (name ++ rest)) = some (name, rest) := by
  have size : (UInt8.ofNat name.length).toNat = name.length := by
    rw [UInt8.toNat_ofNat']
    omega
  have fits : name.length ≤ (name ++ rest).length := by
    rw [List.length_append]
    omega
  simp only [readField, size, if_pos fits, List.take_left, List.drop_left]

theorem readField_length {field b rest : Bytes} (read : readField b = some (field, rest)) :
    field.length < 256 := by
  cases b with
  | nil => cases read
  | cons size back =>
    simp only [readField] at read
    split at read
    · cases read
      have bound := size.toNat_lt
      rw [List.length_take]
      omega
    · cases read

/-- The grammar has no room for longer fields. -/
theorem readUserPass_length {message : Bytes}
    (read : readUserPass message = some (name, password)) :
    name.length < 256 ∧ password.length < 256 := by
  cases message with
  | nil => cases read
  | cons version fields =>
    simp only [readUserPass] at read
    split at read
    · cases read
    · obtain ⟨⟨name', rest⟩, first, read⟩ := Option.bind_eq_some_iff.mp read
      obtain ⟨⟨password', rest'⟩, second, read⟩ := Option.bind_eq_some_iff.mp read
      split at read
      · cases read
        exact ⟨readField_length first, readField_length second⟩
      · cases read

/-- The message can be read back exactly when both lengths fit into a byte. -/
theorem readUserPass_request_iff (name password : Bytes) :
    readUserPass (userPassRequest name password) = some (name, password) ↔
      name.length < 256 ∧ password.length < 256 := by
  constructor
  · exact readUserPass_length
  · rintro ⟨shortName, shortPassword⟩
    have first := readField_append shortName (UInt8.ofNat password.length :: password)
    have second := readField_append shortPassword []
    rw [List.append_nil] at second
    have fields : userPassRequest name password =
        1 :: UInt8.ofNat name.length :: (name ++ (UInt8.ofNat password.length :: password)) := by
      simp [userPassRequest]
    rw [fields]
    simp [readUserPass, first, second]

end Grammar

section Steps
variable {config : Config} {c c' : Option Core} {news : List Control}

/-- A user/password message that goes out is the one with the configured credentials, in
answer to the selection of that method by a server that `PS_AUTH` waits for. -/
theorem sent_step (step : ControlStep config c news c') (credentials : Credentials config c)
    {message : Bytes} {accepted : Bool} (sent : .sent message accepted ∈ news)
    (version : byteAt message 0 = 1) :
    message = userPassRequest config.userName config.userPassword ∧ ∃ k reply, c = some k ∧
      k.proxyState = .psAuth ∧ news.filterMap Control.reply = [reply] ∧
      MethodReply s5amUnpw reply := by
  have other : ∀ first : UInt8, first = socks5 → byteAt message 0 ≠ first := by
    rintro first rfl
    rw [version]
    decide
  cases step with
  | keep | removed => cases sent
  | created | notCreated => simp at sent
  | ignored | connected => simp at sent
  | greeted k accepted' =>
    obtain ⟨rfl, _⟩ := Control.sent.inj (List.mem_singleton.mp sent)
    exact absurd rfl (other _ rfl)
  | answered k reply message' next accepted' answer =>
    obtain ⟨rfl, _⟩ : message = message' ∧ accepted = accepted' := by simpa using sent
    obtain ⟨hname, hpassword⟩ := credentials k rfl
    cases answered_of_controlAnswer answer with
    | credentials waiting _ selected =>
      exact ⟨by rw [hname, hpassword], k, reply, rfl, waiting, rfl, selected⟩
    | otherMethod | accepted => exact absurd rfl (other _ rfl)

/-- The selection of user/password is answered with the credentials. -/
theorem selected_step {k : Core} {reply : Bytes} (step : ControlStep config (some k) news c')
    (credentials : Credentials config (some k)) (named : config.userName ≠ [])
    (waiting : k.proxyState = .psAuth) (handed : news.filterMap Control.reply = [reply])
    (selected : MethodReply s5amUnpw reply) :
    ∃ accepted, .sent (userPassRequest config.userName config.userPassword) accepted ∈ news := by
  obtain ⟨hname, hpassword⟩ := credentials k rfl
  obtain ⟨message, next, accepted, rfl, answered⟩ :=
    selection_answered config step handed waiting ⟨selected.1, selected.2.1, rfl⟩
  cases answered with
  | credentials =>
    rw [hname, hpassword]
    exact ⟨accepted, by simp⟩
  | otherMethod _ _ other =>
    rw [hname] at other
    exact absurd ⟨selected.2.2, named⟩ other
  | accepted negotiating => cases waiting.symm.trans negotiating

end Steps

section Runs
variable (os : Os) (config : Config)

/-- In the course of a run a server selects user/password on a connection that waits for the
selection. -/
def Selected (evs : List Event) (id : EndpointId) : Prop :=
  ∃ before e after k reply, evs = before ++ e :: after ∧ coreOf os config before id = some k ∧
    k.proxyState = .psAuth ∧
    controlReply ((machine os config).run World.initial before) e id = some reply ∧
    MethodReply s5amUnpw reply

/-- Every user/password message that was sent, read by the grammar, gives the credentials
that the proxy was configured with. -/
def Decodable (evs : List Event) (id : EndpointId) : Prop :=
  ∀ message accepted, .sent message accepted ∈ transcriptOf os config evs id →
    byteAt message 0 = 1 → readUserPass message = some (config.userName, config.userPassword)

variable {os config} {evs : List Event} {id : EndpointId}

/-- A user/password message was sent for a selection, and with the credentials. -/
theorem sent_run {message : Bytes} {accepted : Bool}
    (sent : .sent message accepted ∈ transcriptOf os config evs id)
    (version : byteAt message 0 = 1) :
    message = userPassRequest config.userName config.userPassword ∧ Selected os config evs id := by
  induction evs using List.reverseRecOn with
  | nil => cases sent
  | append_singleton evs e ih =>
    obtain ⟨news, htranscript, hreplies, step⟩ := stepOf os config evs e id
    rw [htranscript] at sent
    rcases List.mem_append.mp sent with old | new
    · obtain ⟨same, before, e', after, k, reply, rfl, rest⟩ := ih old
      exact ⟨same, before, e', after ++ [e], k, reply, by simp, rest⟩
    · obtain ⟨same, k, reply, entry, waiting, handed, selected⟩ :=
        sent_step step (credentials_run os config evs id) new version
      rw [handed] at hreplies
      have given := Option.toList_eq_singleton_iff.mp hreplies.symm
      exact ⟨same, evs, e, [], k, reply, rfl, entry, waiting, given, selected⟩

/-- A selection is followed by the message. -/
theorem sent_of_selected (named : config.userName ≠ []) (selected : Selected os config evs id) :
    ∃ accepted, .sent (userPassRequest config.userName config.userPassword) accepted ∈
      transcriptOf os config evs id := by
  obtain ⟨before, e, after, k, reply, rfl, entry, waiting, given, unpw⟩ := selected
  obtain ⟨news, htranscript, hreplies, step⟩ := stepOf os config before e id
  have credentials := credentials_run os config before id
  rw [entry] at step credentials
  rw [given] at hreplies
  obtain ⟨accepted, sent⟩ := selected_step step credentials named waiting hreplies unpw
  obtain ⟨later, hlater⟩ := transcriptOf_append os config (before ++ [e]) after id
  rw [List.append_assoc, List.singleton_append, htranscript] at hlater
  refine ⟨accepted, ?_⟩
  rw [hlater]
  exact List.mem_append_left later (List.mem_append_right _ sent)

/-- What the server reads is the configured user name and password in every run, exactly
when both are shorter than 256 bytes or no server selects the method. -/
theorem credentials_decodable_iff (named : config.userName ≠ []) (evs : List Event)
    (id : EndpointId) :
    Decodable os config evs id ↔
      (config.userName.length < 256 ∧ config.userPassword.length < 256) ∨
        ¬ Selected os config evs id := by
  constructor
  · intro decodable
    by_cases selected : Selected os config evs id
    · obtain ⟨accepted, sent⟩ := sent_of_selected named selected
      exact Or.inl ((readUserPass_request_iff _ _).mp (decodable _ accepted sent rfl))
    · exact Or.inr selected
  · intro holds message accepted sent version
    obtain ⟨rfl, selected⟩ := sent_run sent version
    rcases holds with short | silent
    · exact (readUserPass_request_iff _ _).mpr short
    · exact absurd selected silent

end Runs

section LongName

/-- The server selects user/password. -/
def selectsUnpw : Event := .complete ⟨(7, 2), 0, false⟩ [socks5, s5amUnpw] 0

theorem credentials_decodable_short :
    Decodable acceptingOs credentialsConfig (greetedRun ++ [selectsUnpw]) 7 ↔
      (credentialsConfig.userName.length < 256 ∧ credentialsConfig.userPassword.length < 256) ∨
        ¬ Selected acceptingOs credentialsConfig (greetedRun ++ [selectsUnpw]) 7 :=
  credentials_decodable_iff (by decide) (greetedRun ++ [selectsUnpw]) 7

/-- A user name of 256 times "u", and the password "p". -/
def longNameConfig : Config := ⟨Address.zero, 16, List.replicate 256 0x75, [0x70]⟩

theorem longName_selected :
    Selected acceptingOs longNameConfig (greetedRun ++ [selectsUnpw]) 7 := by
  have whole : [socks5, s5amUnpw].take (List.replicate packetSize (0 : UInt8)).length =
      [socks5, s5amUnpw] := by
    rw [List.length_replicate]
    rfl
  exact ⟨greetedRun, selectsUnpw, [], ⟨.psAuth, List.replicate 256 0x75, [0x70]⟩,
    [socks5, s5amUnpw], rfl, rfl, rfl, congrArg some whole, by decide, rfl, rfl⟩

/-- The message announces an empty user name, and the server cannot read it. -/
theorem long_name_misread :
    (∃ accepted, .sent (userPassRequest longNameConfig.userName longNameConfig.userPassword)
        accepted ∈ transcriptOf acceptingOs longNameConfig (greetedRun ++ [selectsUnpw]) 7) ∧
      readUserPass (userPassRequest longNameConfig.userName longNameConfig.userPassword) = none ∧
      ¬ Decodable acceptingOs longNameConfig (greetedRun ++ [selectsUnpw]) 7 := by
  have unreadable : readUserPass (userPassRequest longNameConfig.userName
      longNameConfig.userPassword) = none := by
    decide +kernel
  obtain ⟨accepted, sent⟩ := sent_of_selected (by decide) longName_selected
  refine ⟨⟨accepted, sent⟩, unreadable, ?_⟩
  intro decodable
  cases unreadable.symm.trans (decodable _ accepted sent rfl)

end LongName

end UserPassword
