import KeySheet.Conversion.Buttons
import KeySheet.Screen.ConvertPanel

/-! What kind of link a text is. The code looks for texts that a link may begin with; said of the
host, that is what stands before the first slash, it is a grammar of whole names, so that nothing in
front of a known name or behind it passes for it. White space around the link and the case of its
letters make no difference, and so what is shown beside the link as it was typed is what the button
goes by. -/
namespace KeySheet.Media.Kind

open Text (foldCase trim dropHead stripHead isBlank)

/-- A link without white space around it, in lower case, and without its scheme; whether it had
one. -/
inductive Bare (url : List Char) : Bool → List Char → Prop
  | secure {rest} : foldCase (trim url) = "https://".toList ++ rest → Bare url true rest
  | plain {rest} : foldCase (trim url) = "http://".toList ++ rest → Bare url true rest
  | missing : ¬ "https://".toList <+: foldCase (trim url) →
      ¬ "http://".toList <+: foldCase (trim url) → Bare url false (foldCase (trim url))

/-- One part out of each list, put behind one another. -/
def sequences : List (List String) → List (List Char)
  | [] => [[]]
  | parts :: rest => parts.flatMap (fun part => (sequences rest).map (part.toList ++ ·))

def youtubeNames : List String :=
  ["youtube.com", "youtu.be", "youtube-nocookie.com", "m.youtube.com"]

def tiktokNames : List String := ["tiktok.com", "vt.tiktok.com", "vm.tiktok.com"]

def youtubeGrammar : List (List Char) := sequences [["", "www."], youtubeNames]

def tiktokGrammar : List (List Char) := sequences [["", "www."], ["", "m."], tiktokNames]

def discordGrammar : List (List Char) :=
  sequences [["cdn.", "media."], ["discordapp.com", "discordapp.net"]]

/-- What stands before the first slash. -/
def hostOf (rest : List Char) : List Char := rest.takeWhile (· ≠ '/')

/-- The first slash and what stands behind it. -/
def pathOf (rest : List Char) : List Char := rest.dropWhile (· ≠ '/')

variable {head rest host tail : List Char}

theorem mem_sequences_cons {parts : List String} {more : List (List String)} {cs : List Char} :
    cs ∈ sequences (parts :: more) ↔
      ∃ part ∈ parts, ∃ rest ∈ sequences more, part.toList ++ rest = cs := by
  simp only [sequences, List.mem_flatMap, List.mem_map]

/-- Taking off a part that may be missing. -/
theorem dropHead_mem_sequences {part : String} {more : List (List String)} (cs : List Char)
    (once : ∀ rest ∈ sequences more, ¬ part.toList <+: rest) :
    dropHead part.toList cs ∈ sequences more ↔ cs ∈ sequences (["", part] :: more) := by
  rw [mem_sequences_cons]
  constructor
  · intro member
    rcases (Text.dropHead_eq_iff (once _ member)).mp rfl with same | behind
    · exact ⟨"", by simp, _, member, same.symm⟩
    · exact ⟨part, by simp, _, member, behind.symm⟩
  · rintro ⟨first, either, rest, member, rfl⟩
    simp only [List.mem_cons, List.not_mem_nil, or_false] at either
    have dropped : dropHead part.toList (first.toList ++ rest) = rest := by
      rw [Text.dropHead_eq_iff (once rest member)]
      rcases either with rfl | rfl
      · exact .inl rfl
      · exact .inr rfl
    rw [dropped]
    exact member

/-! ## The host -/

theorem takeWhile_append_of_plain (plain : '/' ∉ head) (cs : List Char) :
    hostOf (head ++ cs) = head ++ hostOf cs ∧ pathOf (head ++ cs) = pathOf cs := by
  have none : ∀ c ∈ head, decide (c ≠ '/') = true := by
    intro c member
    rw [decide_eq_true_iff]
    rintro rfl
    exact plain member
  exact ⟨List.takeWhile_append_of_pos none, List.dropWhile_append_of_pos none⟩

theorem prefix_hostOf (plain : '/' ∉ head) : head <+: hostOf rest ↔ head <+: rest := by
  constructor
  · intro begins
    exact begins.trans (List.takeWhile_prefix _)
  · rintro ⟨behind, rfl⟩
    rw [(takeWhile_append_of_plain plain behind).1]
    exact List.prefix_append _ _

/-- A part without a slash is taken off the host. -/
theorem hostOf_dropHead (plain : '/' ∉ head) (rest : List Char) :
    hostOf (dropHead head rest) = dropHead head (hostOf rest) ∧
      pathOf (dropHead head rest) = pathOf rest := by
  unfold dropHead
  cases stripped : stripHead head rest with
  | none =>
      rw [Text.stripHead_eq_none_iff, ← prefix_hostOf plain, ← Text.stripHead_eq_none_iff] at stripped
      rw [stripped]
      exact ⟨rfl, rfl⟩
  | some behind =>
      rw [Text.stripHead_eq_some_iff] at stripped
      obtain ⟨host, path⟩ := takeWhile_append_of_plain plain behind
      have again : stripHead head (head ++ hostOf behind) = some (hostOf behind) :=
        Text.stripHead_eq_some_iff.mpr rfl
      rw [stripped, host, again]
      exact ⟨rfl, path.symm⟩

/-- A text that begins with a name and a slash has that name as its host. -/
theorem prefix_slash_iff (plain : '/' ∉ host) :
    host ++ '/' :: tail <+: rest ↔ hostOf rest = host ∧ '/' :: tail <+: pathOf rest := by
  constructor
  · rintro ⟨behind, rfl⟩
    obtain ⟨before, after⟩ := takeWhile_append_of_plain plain ('/' :: tail ++ behind)
    rw [List.append_assoc, before, after]
    constructor
    · exact List.append_nil host
    · exact List.prefix_append _ _
  · rintro ⟨rfl, begins⟩
    have whole : hostOf rest ++ pathOf rest = rest := List.takeWhile_append_dropWhile
    conv => rhs; rw [← whole]
    exact (List.prefix_append_right_inj _).mpr begins

theorem slash_prefix_pathOf : ['/'] <+: pathOf rest ↔ '/' ∈ rest := by
  have whole : hostOf rest ++ pathOf rest = rest := List.takeWhile_append_dropWhile
  have before : '/' ∉ hostOf rest := by
    intro member
    have other := List.all_eq_true.mp List.all_takeWhile '/' member
    simp at other
  constructor
  · rintro ⟨behind, path⟩
    rw [← whole, ← path]
    simp
  · intro member
    rw [← whole] at member
    rcases List.mem_append.mp member with inside | behind
    · exact absurd inside before
    · cases path : pathOf rest with
      | nil =>
          rw [path] at behind
          cases behind
      | cons c cs =>
          -- What is left begins with the character that ended the host.
          have first := List.head?_dropWhile_not (fun c => decide (c ≠ '/')) rest
          rw [show rest.dropWhile (fun c => decide (c ≠ '/')) = c :: cs from path] at first
          have slash : c = '/' := by simpa using first
          rw [slash]
          exact ⟨cs, rfl⟩

theorem beginsWithAny_iff {names : List (List Char)} (plain : ∀ name ∈ names, '/' ∉ name)
    (tail rest : List Char) :
    beginsWithAny (names.map (· ++ '/' :: tail)) rest = true ↔
      hostOf rest ∈ names ∧ '/' :: tail <+: pathOf rest := by
  unfold beginsWithAny
  rw [List.any_eq_true]
  constructor
  · rintro ⟨begin, member, begins⟩
    obtain ⟨name, named, rfl⟩ := List.mem_map.mp member
    rw [List.isPrefixOf_iff_prefix, prefix_slash_iff (plain name named)] at begins
    obtain ⟨rfl, path⟩ := begins
    exact ⟨named, path⟩
  · rintro ⟨named, path⟩
    refine ⟨hostOf rest ++ '/' :: tail, List.mem_map_of_mem named, ?_⟩
    rw [List.isPrefixOf_iff_prefix, prefix_slash_iff (plain _ named)]
    exact ⟨rfl, path⟩

/-! ## The three kinds -/

theorem youtube_iff (rest : List Char) :
    beginsWithAny youtubeHosts (dropHead "www.".toList rest) = true ↔
      '/' ∈ rest ∧ hostOf rest ∈ youtubeGrammar := by
  have hosts : youtubeHosts = (sequences [youtubeNames]).map (· ++ '/' :: []) := by decide +kernel
  obtain ⟨host, path⟩ := hostOf_dropHead (by decide +kernel : '/' ∉ "www.".toList) rest
  rw [hosts, beginsWithAny_iff (by decide +kernel), host, path, slash_prefix_pathOf,
    dropHead_mem_sequences _ (by decide +kernel), and_comm]
  rfl

theorem tiktok_iff (rest : List Char) :
    beginsWithAny tiktokHosts (dropHead "m.".toList (dropHead "www.".toList rest)) = true ↔
      '/' ∈ rest ∧ hostOf rest ∈ tiktokGrammar := by
  have hosts : tiktokHosts = (sequences [tiktokNames]).map (· ++ '/' :: []) := by decide +kernel
  obtain ⟨host, path⟩ := hostOf_dropHead (by decide +kernel : '/' ∉ "www.".toList) rest
  obtain ⟨host', path'⟩ := hostOf_dropHead (by decide +kernel : '/' ∉ "m.".toList)
    (dropHead "www.".toList rest)
  rw [hosts, beginsWithAny_iff (by decide +kernel), host', path', host, path, slash_prefix_pathOf,
    dropHead_mem_sequences _ (by decide +kernel), dropHead_mem_sequences _ (by decide +kernel),
    and_comm]
  rfl

theorem discord_iff (rest : List Char) :
    beginsWithAny discordHosts rest = true ↔
      hostOf rest ∈ discordGrammar ∧ "/attachments/".toList <+: pathOf rest := by
  have hosts : discordHosts = discordGrammar.map (· ++ '/' :: "attachments/".toList) := by
    decide +kernel
  rw [hosts, beginsWithAny_iff (by decide +kernel)]
  rfl

/-! ## The whole link -/

variable {url : List Char} {schemed : Bool}

theorem exists_bare (url : List Char) : ∃ schemed rest, Bare url schemed rest := by
  by_cases secure : "https://".toList <+: foldCase (trim url)
  · obtain ⟨rest, whole⟩ := secure
    exact ⟨true, rest, .secure whole.symm⟩
  · by_cases plain : "http://".toList <+: foldCase (trim url)
    · obtain ⟨rest, whole⟩ := plain
      exact ⟨true, rest, .plain whole.symm⟩
    · exact ⟨false, _, .missing secure plain⟩

theorem Bare.splitScheme (bare : Bare url schemed rest) :
    (Kind.splitScheme url).2.isSome = schemed ∧
      (Kind.splitScheme url).2.getD (Kind.splitScheme url).1 = rest := by
  unfold Kind.splitScheme
  cases bare with
  | secure whole =>
      dsimp only
      rw [Text.stripHead_eq_some_iff.mpr whole]
      exact ⟨rfl, rfl⟩
  | plain whole =>
      have other : stripHead "https://".toList ("http://".toList ++ rest) = none := rfl
      dsimp only
      rw [Text.stripHead_eq_some_iff.mpr whole, whole, other]
      exact ⟨rfl, rfl⟩
  | missing secure plain =>
      dsimp only
      rw [Text.stripHead_eq_none_iff.mpr secure, Text.stripHead_eq_none_iff.mpr plain]
      exact ⟨rfl, rfl⟩

theorem Bare.detect_eq (bare : Bare url schemed rest) :
    detect url =
      if '/' ∈ rest ∧ hostOf rest ∈ youtubeGrammar then some .youtube
      else if '/' ∈ rest ∧ hostOf rest ∈ tiktokGrammar then some .tiktok
      else if schemed = true ∧ hostOf rest ∈ discordGrammar ∧
        "/attachments/".toList <+: pathOf rest then some .discord
      else none := by
  obtain ⟨had, left⟩ := bare.splitScheme
  unfold detect
  generalize Kind.splitScheme url = split at had left
  obtain ⟨lower, behind⟩ := split
  dsimp only at had left ⊢
  simp only [had, left, youtube_iff, tiktok_iff, discord_iff, Bool.and_eq_true]

theorem Bare.slash_of_detect (bare : Bare url schemed rest) {kind : Kind}
    (detected : detect url = some kind) : '/' ∈ rest := by
  rw [bare.detect_eq] at detected
  split at detected
  · next youtube => exact youtube.1
  split at detected
  · next tiktok => exact tiktok.1
  split at detected
  · next discord =>
      have slash : ['/'] <+: "/attachments/".toList := by decide +kernel
      exact slash_prefix_pathOf.mp (slash.trans discord.2.2)
  · cases detected

theorem Bare.youtube (bare : Bare url schemed rest) :
    detect url = some .youtube ↔ '/' ∈ rest ∧ hostOf rest ∈ youtubeGrammar := by
  rw [bare.detect_eq]
  split
  · next youtube => exact iff_of_true rfl youtube
  · next other =>
      refine iff_of_false ?_ other
      split
      · nofun
      · split <;> nofun

theorem Bare.tiktok (bare : Bare url schemed rest) :
    detect url = some .tiktok ↔ '/' ∈ rest ∧ hostOf rest ∈ tiktokGrammar := by
  rw [bare.detect_eq]
  split
  · next youtube =>
      have apart : ∀ host ∈ youtubeGrammar, host ∉ tiktokGrammar := by decide +kernel
      exact iff_of_false nofun fun tiktok => apart _ youtube.2 tiktok.2
  · split
    · next tiktok => exact iff_of_true rfl tiktok
    · next other =>
        refine iff_of_false ?_ other
        split <;> nofun

theorem Bare.discord (bare : Bare url schemed rest) :
    detect url = some .discord ↔ schemed = true ∧ hostOf rest ∈ discordGrammar ∧
      "/attachments/".toList <+: pathOf rest := by
  rw [bare.detect_eq]
  split
  · next youtube =>
      have apart : ∀ host ∈ youtubeGrammar, host ∉ discordGrammar := by decide +kernel
      exact iff_of_false nofun fun discord => apart _ youtube.2 discord.2.1
  · split
    · next tiktok =>
        have apart : ∀ host ∈ tiktokGrammar, host ∉ discordGrammar := by decide +kernel
        exact iff_of_false nofun fun discord => apart _ tiktok.2 discord.2.1
    · split
      · next discord => exact iff_of_true rfl discord
      · next other => exact iff_of_false nofun other

theorem detect_ne_mp3 (url : List Char) : detect url ≠ some .mp3 := by
  obtain ⟨schemed, rest, bare⟩ := exists_bare url
  rw [bare.detect_eq]
  split
  · nofun
  · split
    · nofun
    · split <;> nofun

/-! ## White space and case -/

theorem toNat_toLower (c : Char) :
    c.toLower = c ∨ (65 ≤ c.toNat ∧ c.toNat ≤ 90 ∧ c.toLower.toNat = c.toNat + 32) := by
  unfold Char.toLower
  split
  · next upper =>
      right
      obtain ⟨low, high⟩ := upper
      have low : 65 ≤ c.val.toNat := low
      have high : c.val.toNat ≤ 90 := high
      refine ⟨low, high, ?_⟩
      show (c.val + 32).toNat = c.val.toNat + 32
      rw [UInt32.toNat_add]
      show (c.val.toNat + 32) % 2 ^ 32 = _
      omega
  · exact .inl rfl

/-- Letters are no white space in either case. -/
theorem isBlank_toLower (c : Char) : isBlank c.toLower = isBlank c := by
  rcases toNat_toLower c with same | ⟨low, high, shifted⟩
  · rw [same]
  · have letter (n : Nat) (low : 65 ≤ n) (high : n ≤ 122) (c : Char) (at_n : c.toNat = n) :
        isBlank c = false := by
      simp only [isBlank, at_n, Bool.or_eq_false_iff, Bool.and_eq_false_iff, decide_eq_false_iff_not,
        beq_eq_false_iff_ne]
      omega
    rw [letter _ (by omega) (by omega) _ shifted, letter _ low (by omega) _ rfl]

theorem trim_foldCase (cs : List Char) : trim (foldCase cs) = foldCase (trim cs) := by
  have kept : isBlank ∘ Char.toLower = isBlank := funext isBlank_toLower
  unfold trim Text.trimEnd Text.trimStart foldCase
  rw [List.dropWhile_map, kept, ← List.map_reverse, List.dropWhile_map, kept, List.map_reverse]

theorem detect_of_same {url url' : List Char} (same : foldCase (trim url) = foldCase (trim url')) :
    detect url = detect url' := by
  have split : splitScheme url = splitScheme url' := by
    unfold splitScheme
    rw [same]
  unfold detect
  rw [split]

theorem detect_trim (url : List Char) : detect (trim url) = detect url :=
  detect_of_same (by rw [Text.trim_trim])

/-! ## What is shown, and the button -/

/-- What stands beside a link whose kind is known. -/
def badgeRun (kind : Kind) : Screen.Run :=
  Screen.run ("Source: " ++ kind.badge) Screen.Color.green.style

def unknownRun : Screen.Run := Screen.run "Unrecognised link" Screen.Color.red.style

theorem ofInput?_url {url : String} {device : Device} {source : Source}
    (typed : Source.ofInput? url device = some source) :
    trim url.toList ≠ [] ∧ source.url.toList = trim url.toList := by
  unfold Source.ofInput? at typed
  cases trimmed : trim url.toList with
  | nil =>
      rw [trimmed] at typed
      cases typed
  | cons c cs =>
      rw [trimmed] at typed
      obtain rfl := Option.some.inj typed
      exact ⟨nofun, String.toList_ofList⟩

theorem sourceRun_eq {url : String} (filled : trim url.toList ≠ []) :
    Screen.sourceRun url = match detect url.toList with
      | some kind => badgeRun kind
      | none => unknownRun := by
  unfold Screen.sourceRun
  rw [if_neg (by rwa [List.isEmpty_iff])]
  cases detect url.toList <;> rfl

/-- What is shown says which button it will be. -/
theorem button_shown {url : String} {device : Device} {source : Source}
    (typed : Source.ofInput? url device = some source) :
    (Conversion.Button.ofSource source = .link ↔
      Screen.sourceRun url = badgeRun .youtube ∨ Screen.sourceRun url = badgeRun .tiktok) ∧
    (Conversion.Button.ofSource source = .mp3 ↔
      Screen.sourceRun url = badgeRun .discord ∨ Screen.sourceRun url = unknownRun) := by
  obtain ⟨filled, same⟩ := ofInput?_url typed
  unfold Conversion.Button.ofSource
  rw [sourceRun_eq filled, same, detect_trim]
  cases detected : detect url.toList with
  | none => decide +kernel
  | some kind =>
      cases kind with
      | mp3 => exact absurd detected (detect_ne_mp3 _)
      | youtube | tiktok | discord => decide +kernel

/-- A link is of a kind exactly if its host is one of the names of that kind as a whole, and for an
attachment also the scheme and the path are those. White space around it and the case of its letters
do not count, and the kind that is shown as one types is the one that the button goes by. -/
theorem link_kind_by_host (url : String) :
    (∃ schemed rest, Bare url.toList schemed rest) ∧
    (∀ schemed rest, Bare url.toList schemed rest →
      ('/' ∉ rest → detect url.toList = none) ∧
      (detect url.toList = some .youtube ↔ '/' ∈ rest ∧ hostOf rest ∈ youtubeGrammar) ∧
      (detect url.toList = some .tiktok ↔ '/' ∈ rest ∧ hostOf rest ∈ tiktokGrammar) ∧
      (detect url.toList = some .discord ↔ schemed = true ∧ hostOf rest ∈ discordGrammar ∧
        "/attachments/".toList <+: pathOf rest)) ∧
    detect url.toList ≠ some .mp3 ∧
    (∀ front back, (∀ c ∈ front, isBlank c = true) → (∀ c ∈ back, isBlank c = true) →
      detect (front ++ url.toList ++ back) = detect url.toList) ∧
    (∀ other, foldCase other = foldCase url.toList → detect other = detect url.toList) ∧
    ∀ device source, Source.ofInput? url device = some source →
      detect source.url.toList = detect url.toList ∧
      (Conversion.Button.ofSource source = .link ↔
        Screen.sourceRun url = badgeRun .youtube ∨ Screen.sourceRun url = badgeRun .tiktok) ∧
      (Conversion.Button.ofSource source = .mp3 ↔
        Screen.sourceRun url = badgeRun .discord ∨ Screen.sourceRun url = unknownRun) := by
  refine ⟨exists_bare _, ?_, detect_ne_mp3 _, ?_, ?_, ?_⟩
  · intro schemed rest bare
    refine ⟨?_, bare.youtube, bare.tiktok, bare.discord⟩
    intro whole
    rw [Option.eq_none_iff_forall_ne_some]
    intro kind detected
    exact whole (bare.slash_of_detect detected)
  · intro front back before after
    exact detect_of_same (by rw [Text.trim_padded before after])
  · intro other same
    apply detect_of_same
    rw [← trim_foldCase, same, trim_foldCase]
  · intro device source typed
    refine ⟨?_, button_shown typed⟩
    rw [(ofInput?_url typed).2, detect_trim]

/-- A link as someone might paste it. -/
def pasted : String := " HTTPS://WWW.YouTube.com/watch?v=1 "

theorem pasted_link_is_video :
    Bare pasted.toList true "www.youtube.com/watch?v=1".toList ∧
      detect pasted.toList = some .youtube ∧
      Conversion.Button.ofSource ⟨"HTTPS://WWW.YouTube.com/watch?v=1", .cuda⟩ = .link := by
  obtain ⟨-, kinds, -, -, -, typed⟩ := link_kind_by_host pasted
  have bare : Bare pasted.toList true "www.youtube.com/watch?v=1".toList :=
    .secure (by decide +kernel)
  obtain ⟨-, youtube, -, -⟩ := kinds true _ bare
  have input : Source.ofInput? pasted .cuda = some ⟨"HTTPS://WWW.YouTube.com/watch?v=1", .cuda⟩ := by
    decide +kernel
  obtain ⟨-, button, -⟩ := typed .cuda _ input
  refine ⟨bare, youtube.mpr ⟨by decide +kernel, by decide +kernel⟩, button.mpr (.inl ?_)⟩
  decide +kernel

end KeySheet.Media.Kind
