/-
The MIME types that the program knows.

The table is an excerpt of the one that the program is built with; nothing but the program itself
depends on what is in it.
-/
import FileTriage.Mime

namespace FileTriage.Mime

/-- The MIME types of extensions in lower case. -/
def types : List (String × String) :=
  [("pdf", "application/pdf"), ("png", "image/png"), ("txt", "text/plain"), ("htm", "text/html"),
   ("html", "text/html"), ("jpg", "image/jpeg"), ("jpeg", "image/jpeg"), ("gif", "image/gif"),
   ("zip", "application/zip"), ("json", "application/json"), ("xml", "text/xml"),
   ("css", "text/css"), ("csv", "text/csv"), ("js", "text/javascript"), ("mp3", "audio/mpeg"),
   ("mp4", "video/mp4"), ("tar", "application/x-tar"), ("gz", "application/gzip"),
   ("docx", "application/vnd.openxmlformats-officedocument.wordprocessingml.document"),
   ("xlsx", "application/vnd.openxmlformats-officedocument.spreadsheetml.sheet"),
   ("exe", "application/octet-stream"), ("iso", "application/octet-stream"),
   ("bin", "application/octet-stream"), ("md", "text/markdown"), ("svg", "image/svg+xml"),
   ("toml", "text/x-toml"), ("wav", "audio/wav"), ("x", "application/directx")]

/-- The MIME type that the extension of a path stands for. -/
def ofPath : String → Option String := byExtension fun ending => types.lookup ending

/-- The program's classifier. -/
instance extensionClassifier : MimeClassifier where
  classify := ofPath

end FileTriage.Mime
