import TidbOperator.Watcher.Watch

/-!
# プロセスの入口

`init` と `main`（src/unnamed/part_000）。この `main` の作る `Config` には、src の `garbagecollection` にない
`ExcludeFiles` があり、二つは一緒にはビルドできない。そのため `Validate` と `Run` の終わり方は答えとして受け取る。
-/

namespace TidbOperator

/-- `signal.Notify` に渡す四つのシグナル。 -/
inductive Signal
  | sighup
  | sigint
  | sigterm
  | sigquit
  deriving DecidableEq, Repr

/-- シグナルを待つゴルーチンが `os.Exit` に渡す値。 -/
def exitCode : Signal → Nat
  | .sigterm => 0
  | _ => 1

/-- プロセスの終わり方。 -/
inductive ProcessEnd
  | panicked (msg : String)
  | exited (code : Nat)
  deriving DecidableEq, Repr

/-- `init` と `main` が外から受け取る答え。 -/
structure MainAnswers where
  /-- `init` の `flag.Parse()` が引数を読めたか。読めなければ `flag.ExitOnError` で `os.Exit(2)`。 -/
  flagsParsed : Bool
  /-- `os.Getenv("NODE_NAME")`。 -/
  nodeName : String
  /-- `os.Hostname()`。 -/
  hostname : Except Err String
  /-- `k8sutil.NewTPRClientWithCodecFactory` のエラー。 -/
  tprClient : Option Err
  /-- `c.Validate()`。 -/
  validate : Except Err Unit
  /-- シグナルを待つゴルーチンを起こしたあと、`Run` が返る前に届くシグナル。 -/
  signal : Option Signal
  /-- `w.Run()` の終わり方。`none` は返らないこと。 -/
  run : Option RunEnd

/-- `init` のあとの `main`。`none` は、与えた答えの範囲ではまだ終わっていないこと。 -/
def main (a : MainAnswers) : Option ProcessEnd :=
  if !a.flagsParsed then some (.exited 2) else
  match (if a.nodeName = "" then a.hostname else .ok a.nodeName) with
  | .error e => some (.panicked s!"get nodeName: {e.message}")
  | .ok _ =>
    match a.tprClient with
    | some e => some (.panicked s!"create a tpr client: {e.message}")
    | none =>
      match a.validate with
      | .error e => some (.panicked s!"validate config: {e.message}")
      | .ok () =>
        match a.signal with
        | some sig => some (.exited (exitCode sig))
        | none =>
          match a.run with
          | none => none
          | some (.returned e) => some (.panicked s!"run garbage collection watcher: {e.message}")
          | some (.panicked site) => some (.panicked (Err.panic site).message)

end TidbOperator
