import KeySheet.Text.Utf8

/-! The form that a file is uploaded in: one part, between two lines that name the boundary. -/
namespace KeySheet.Backend.Multipart

def boundary : String := "----sheettui-upload-7f3a91c2"

def lineEnd : String := "\r\n"

/-- The type of the whole form. -/
def contentType : String := "multipart/form-data; boundary=" ++ boundary

/-- Quotes would end the name early, so they become underscores. -/
def safeName (name : String) : String :=
  String.ofList (name.toList.map (fun c => if c = '"' then '_' else c))

/-- All that stands before the content. -/
def opening (name : String) : String :=
  "--" ++ boundary ++ lineEnd ++
    "Content-Disposition: form-data; name=\"file\"; filename=\"" ++ safeName name ++ "\"" ++
    lineEnd ++ "Content-Type: audio/midi" ++ lineEnd ++ lineEnd

def closing : String := lineEnd ++ "--" ++ boundary ++ "--" ++ lineEnd

def body (name : String) (content : List UInt8) : List UInt8 :=
  Text.utf8 (opening name) ++ content ++ Text.utf8 closing

end KeySheet.Backend.Multipart
