import KeySheet.Text.Ascii
import KeySheet.Text.Blank

/-! Where media comes from. A link is recognised by its host, so that only links the converter
would take are sent as links. -/
namespace KeySheet.Media

inductive Kind where
  | youtube
  | tiktok
  | discord
  /-- An uploaded recording, and all that has no label. -/
  | mp3
  deriving DecidableEq, Repr, Inhabited

namespace Kind

/-- The mark shown in the history. -/
def badge : Kind → String
  | youtube => "YouTube"
  | tiktok => "TikTok"
  | discord => "Discord"
  | mp3 => "MP3"

/-- The name in documents. -/
def name : Kind → String
  | youtube => "youtube"
  | tiktok => "tiktok"
  | discord => "discord"
  | mp3 => "mp3"

/-- The kind of a name; a name that is not known is an uploaded recording. -/
def ofName (s : String) : Kind :=
  match s with
  | "youtube" => youtube
  | "tiktok" => tiktok
  | "discord" => discord
  | _ => mp3

def youtubeHosts : List (List Char) :=
  ["youtube.com/", "youtu.be/", "youtube-nocookie.com/", "m.youtube.com/"].map String.toList

def tiktokHosts : List (List Char) :=
  ["tiktok.com/", "vt.tiktok.com/", "vm.tiktok.com/"].map String.toList

def discordHosts : List (List Char) :=
  ["cdn.discordapp.com/attachments/", "cdn.discordapp.net/attachments/",
    "media.discordapp.com/attachments/", "media.discordapp.net/attachments/"].map String.toList

def beginsWithAny (heads : List (List Char)) (cs : List Char) : Bool :=
  heads.any (fun h => h.isPrefixOf cs)

/-- A link in lower case, without white space around it, and what follows its scheme if it has
one. -/
def splitScheme (url : List Char) : List Char × Option (List Char) :=
  let lower := Text.foldCase (Text.trim url)
  (lower, (Text.stripHead "https://".toList lower).or (Text.stripHead "http://".toList lower))

/-- The kind of a link by its host; `none` for one that the converter would refuse. An attachment
link must have a scheme. -/
def detect (url : List Char) : Option Kind :=
  let (lower, behind) := splitScheme url
  let rest := behind.getD lower
  let host := Text.dropHead "www.".toList rest
  if beginsWithAny youtubeHosts host then some youtube
  else if beginsWithAny tiktokHosts (Text.dropHead "m.".toList host) then some tiktok
  else if behind.isSome && beginsWithAny discordHosts rest then some discord
  else none

theorem ofName_name (k : Kind) : ofName k.name = k := by cases k <;> rfl

end Kind

end KeySheet.Media
