import Atc.Exec.Types

/-!
# Streaming one file out of a task

`TaskStep.StreamFile` and `containerSource.StreamFile`: a later step reads one file of a task,
either through the task step, as a path under its working directory, or through the source of
one of its outputs, as a path under that output's directory. Both stream the path out of the
container and take the first entry of the tar stream; when there is none, the error names the
path the caller asked for, not the path in the container.

## Main definitions

* `Atc.Exec.streamFileAt` — the body the two share: one `StreamOut`, then the first entry.
* `Atc.Exec.ArtifactSource.streamFile` — `StreamFile` of each kind of source.

## Main results

* `Atc.Exec.output_streamFile_eq_step` — for a rooted artifacts root, reading `f` through the
  source of an output streams the same container path as reading `<output>/f` through the
  step; the two differ only in the name a missing file is reported under. So `f` is not held
  to the output's directory: `../x` reads `x` of the working directory.

## Implementation notes

The bytes are not modelled. The reply to `StreamOut` is its error, or the outcome of the first
`Next` of a tar reader on the stream (its error, or an entry); the reader that is returned is
named by the container and the path it reads.
-/

namespace Atc

namespace Exec

open Atc.Go

/-- `container.StreamOut(path)`, with the first `tarReader.Next()` on the stream it returns. -/
inductive FileReq where
  | streamOut (container : Container) (path : String)
  deriving DecidableEq, Repr

/-- The reply: the error of `StreamOut`, or the error of `Next`, or an entry. -/
abbrev FileResp : FileReq → Type
  | .streamOut .. => Except String (Except String Unit)

/-- The errors of `StreamFile`: `FileNotFoundError{Path}`, or the error of `StreamOut` as it
came. -/
inductive StreamFileError where
  | fileNotFound (path : String)
  | remote (msg : String)
  deriving DecidableEq, Repr

/-- `fileReadCloser`: the tar reader on the first entry of the stream of `path`. -/
structure FileReadCloser where
  container : Container
  path : String
  deriving DecidableEq, Repr

/-- The body of both `StreamFile`s: stream `path` out of `container`; when its tar stream has no
entry, the file `name` was not found. -/
def streamFileAt (container : Container) (path name : String) :
    Prog FileReq FileResp (Except StreamFileError FileReadCloser) := do
  match ← (Prog.query (.streamOut container path) :
      Prog FileReq FileResp (Except String (Except String Unit))) with
  | .error err => pure (.error (.remote err))
  | .ok (.error _) => pure (.error (.fileNotFound name))
  | .ok (.ok ()) => pure (.ok ⟨container, path⟩)

/-- `StreamFile` of each kind of source: `TaskStep.StreamFile(source)` reads
`path.Join(artifactsRoot, source)`, and `containerSource.StreamFile(filename)` reads
`path.Join(artifactsPath(outputConfig, artifactsRoot), filename)`. -/
def ArtifactSource.streamFile :
    ArtifactSource → String → Prog FileReq FileResp (Except StreamFileError FileReadCloser)
  | .taskStep container artifactsRoot, source =>
    streamFileAt container (join [artifactsRoot, source]) source
  | .containerSource artifactsRoot container outputConfig _, filename =>
    streamFileAt container (join [artifactsPath outputConfig artifactsRoot, filename]) filename

theorem join_pair {a : String} (ha : a ≠ "") (b : String) :
    join [a, b] = clean ⟨a.data ++ '/' :: b.data⟩ := by
  have hdata : a.data ≠ [] := fun h => ha (String.ext h)
  have hlen : a.length ≠ 0 := fun h => hdata (List.length_eq_zero.1 h)
  simp [join, hlen, ha, hdata]

/-- **An output's files are the step's files under the output's directory.** With a rooted
artifacts root, `path.Join(artifactsPath(output, root), f)` is `path.Join(root, out + "/" + f)`,
where `out` is the output's path, or its name.

**Proof sketch.** Both are `path.Clean` of the root, the output and `f`; the left one cleans the
first two before appending `f`, which gives the same path (`clean_clean_append`), and its doubled
slash is an empty element that vanishes (`clean_append_slash_slash`). -/
theorem join_artifactsPath {artifactsRoot : String} (hroot : artifactsRoot.data.head? = some '/')
    (outputConfig : TaskOutputConfig) (f : String) :
    join [artifactsPath outputConfig artifactsRoot, f] =
      join [artifactsRoot, (if outputConfig.path.length = 0 then outputConfig.name
        else outputConfig.path) ++ "/" ++ f] := by
  unfold artifactsPath
  generalize (if outputConfig.path.length = 0 then outputConfig.name
    else outputConfig.path) = out
  have hroot₀ : artifactsRoot ≠ "" := by rintro rfl; cases hroot
  have hx : (String.mk (artifactsRoot.data ++ '/' :: out.data)).data.head? = some '/' := by
    obtain ⟨c, cs, hc⟩ := List.exists_cons_of_ne_nil (fun h => hroot₀ (String.ext h))
    rw [hc] at hroot ⊢; exact hroot
  have hdata : ∀ s t : String, (s ++ t).data = s.data ++ t.data := fun _ _ => rfl
  have hJ : join [artifactsRoot, out] ++ "/" ≠ "" := fun h => by
    simpa [hdata] using congrArg String.data h
  rw [join_pair hJ, join_pair hroot₀, join_pair hroot₀]
  simp only [hdata, List.append_assoc, List.singleton_append]
  rw [clean_append_slash_slash, clean_clean_append hx]
  · simp
  · rw [clean_data_of_rooted hx]; exact List.cons_ne_nil _ _

/-- **Reading a file through an output.** With a rooted artifacts root, `StreamFile(f)` of the
source of an output and `StreamFile(out + "/" + f)` of the task step, where `out` is the
output's path or its name, stream the same path out of the same container; they differ only in
the name under which a missing file is reported. -/
theorem output_streamFile_eq_step {artifactsRoot : String}
    (hroot : artifactsRoot.data.head? = some '/') (container : Container)
    (outputConfig : TaskOutputConfig) (volumeHandle f : String) :
    let out := if outputConfig.path.length = 0 then outputConfig.name else outputConfig.path
    ∃ path, (ArtifactSource.containerSource artifactsRoot container outputConfig
        volumeHandle).streamFile f = streamFileAt container path f ∧
      (ArtifactSource.taskStep container artifactsRoot).streamFile (out ++ "/" ++ f) =
        streamFileAt container path (out ++ "/" ++ f) :=
  ⟨_, by rw [ArtifactSource.streamFile, join_artifactsPath hroot], rfl⟩

/-- Under the working directory `/tmp/build/abc`, the source of the output `out` asked for
`../secret` streams the same path as the step asked for `out/../secret`, which is
`/tmp/build/abc/secret`: outside the output's directory. -/
theorem output_streamFile_leaves_output_dir :
    "/tmp/build/abc".data.head? = some '/' ∧
    (∃ path, (ArtifactSource.containerSource "/tmp/build/abc" ⟨"c", []⟩ ⟨"out", ""⟩
        "").streamFile "../secret" = streamFileAt ⟨"c", []⟩ path "../secret" ∧
      (ArtifactSource.taskStep ⟨"c", []⟩ "/tmp/build/abc").streamFile ("out" ++ "/" ++ "../secret") =
        streamFileAt ⟨"c", []⟩ path ("out" ++ "/" ++ "../secret")) ∧
    join ["/tmp/build/abc", "out" ++ "/" ++ "../secret"] = "/tmp/build/abc/secret" :=
  ⟨rfl, @output_streamFile_eq_step "/tmp/build/abc" rfl _ _ _ _, by decide⟩

end Exec

end Atc
