import ScriptBindings.Text.Grid

/-!
# The extension of GB 2312

What the Chinese encodings of two bytes have beyond GB 2312 and the plain range of characters. The
rows are named by their first byte.
-/

namespace ScriptBindings.Text.Grid

/-- The symbols and rare characters that GBK adds to GB 2312. -/
def gbkSymbols : Grid where
  width := 190
  bands := [
  ⟨0xA1, 100, ["·"]⟩,
  ⟨0xA1, 106, ["—"]⟩,
  ⟨0xA2, 97, ["ⅰⅱⅲⅳⅴⅵⅶⅷⅸⅹ"]⟩,
  ⟨0xA6, 160, ["︵︶︹︺︿﹀︽︾﹁﹂﹃﹄"]⟩,
  ⟨0xA6, 174, ["︻︼︷︸︱"]⟩,
  ⟨0xA6, 180, ["︳︴"]⟩,
  ⟨0xA8, 1, ["\u02CA\u02CB\u02D9–―‥‵℅℉↖↗↘↙∕∟∣≒≦≧⊿═║╒╓╔╕╖╗╘╙╚╛╜╝╞╟╠╡╢╣╤╥╦╧╨╩╪╫╬╭╮╯╰╱╲╳▁▂▃▄▅▆▇█▉",
     "▊▋▌▍▎▏▓▔▕▼▽◢◣◤◥☉⊕〒〝〞"]⟩,
  ⟨0xA8, 123, ["ɑ"]⟩,
  ⟨0xA8, 125, ["ńň"]⟩,
  ⟨0xA8, 128, ["ɡ"]⟩,
  ⟨0xA9, 1, ["〡〢〣〤〥〦〧〨〩㊣㎎㎏㎜㎝㎞㎡㏄㏎㏑㏒㏕︰￢￤"]⟩,
  ⟨0xA9, 26, ["℡㈱"]⟩,
  ⟨0xA9, 29, ["‐"]⟩,
  ⟨0xA9, 33, ["ー\u309B\u309Cヽヾ〆ゝゞ﹉﹊﹋﹌﹍﹎﹏﹐﹑﹒﹔﹕﹖﹗﹙﹚﹛﹜﹝﹞﹟﹠﹡﹢﹣﹤﹥﹦﹨﹩﹪﹫"]⟩,
  ⟨0xA9, 86, ["〇"]⟩,
  ⟨0xFD, 92, ["\uF92C\uF979\uF995\uF9E7\uF9F1"]⟩,
  ⟨0xFE, 1, ["\uFA0C\uFA0D﨎﨏﨑﨓﨔\uFA18﨟\uFA20﨡﨣﨤﨧﨨﨩"]⟩]

/-- The characters of two bytes that GB 18030 adds to GBK. -/
def gb18030Symbols : Grid where
  width := 190
  bands := [
  ⟨0xA2, 107, ["\uE766\uE767\uE768\uE769\uE76A\uE76B"]⟩,
  ⟨0xA2, 163, ["€\uE76D"]⟩,
  ⟨0xA2, 175, ["\uE76E\uE76F"]⟩,
  ⟨0xA2, 189, ["\uE770\uE771"]⟩,
  ⟨0xA4, 180, ["\uE772\uE773\uE774\uE775\uE776\uE777\uE778\uE779\uE77A\uE77B\uE77C"]⟩,
  ⟨0xA5, 183, ["\uE77D\uE77E\uE77F\uE780\uE781\uE782\uE783\uE784"]⟩,
  ⟨0xA6, 121, ["\uE785\uE786\uE787\uE788\uE789\uE78A\uE78B\uE78C"]⟩,
  ⟨0xA6, 153, ["\uE78D\uE78E\uE78F\uE790\uE791\uE792\uE793"]⟩,
  ⟨0xA6, 172, ["\uE794\uE795"]⟩,
  ⟨0xA6, 179, ["\uE796"]⟩,
  ⟨0xA6, 182, ["\uE797\uE798\uE799\uE79A\uE79B\uE79C\uE79D\uE79E\uE79F"]⟩,
  ⟨0xA7, 130, ["\uE7A0\uE7A1\uE7A2\uE7A3\uE7A4\uE7A5\uE7A6\uE7A7\uE7A8\uE7A9\uE7AA\uE7AB\uE7AC",
     "\uE7AD\uE7AE"]⟩,
  ⟨0xA7, 178, ["\uE7AF\uE7B0\uE7B1\uE7B2\uE7B3\uE7B4\uE7B5\uE7B6\uE7B7\uE7B8\uE7B9\uE7BA\uE7BB"]⟩,
  ⟨0xA8, 86, ["\uE7BC\uE7BD\uE7BE\uE7BF\uE7C0\uE7C1\uE7C2\uE7C3\uE7C4\uE7C5\uE7C6"]⟩,
  ⟨0xA8, 124, ["\uE7C7"]⟩,
  ⟨0xA8, 127, ["ǹ"]⟩,
  ⟨0xA8, 129, ["\uE7C9\uE7CA\uE7CB\uE7CC"]⟩,
  ⟨0xA8, 170, ["\uE7CD\uE7CE\uE7CF\uE7D0\uE7D1\uE7D2\uE7D3\uE7D4\uE7D5\uE7D6\uE7D7\uE7D8\uE7D9",
     "\uE7DA\uE7DB\uE7DC\uE7DD\uE7DE\uE7DF\uE7E0\uE7E1"]⟩,
  ⟨0xA9, 25, ["\uE7E2"]⟩,
  ⟨0xA9, 28, ["\uE7E3"]⟩,
  ⟨0xA9, 30, ["\uE7E4\uE7E5\uE7E6"]⟩,
  ⟨0xA9, 73, ["〾⿰⿱⿲⿳⿴⿵⿶⿷⿸⿹⿺⿻"]⟩,
  ⟨0xA9, 87, ["\uE7F4\uE7F5\uE7F6\uE7F7\uE7F8\uE7F9\uE7FA\uE7FB\uE7FC\uE7FD\uE7FE\uE7FF\uE800"]⟩,
  ⟨0xA9, 176, ["\uE801\uE802\uE803\uE804\uE805\uE806\uE807\uE808\uE809\uE80A\uE80B\uE80C\uE80D",
     "\uE80E\uE80F"]⟩,
  ⟨0xD7, 186, ["\uE810\uE811\uE812\uE813\uE814"]⟩,
  ⟨0xFE, 17, ["⺁\uE816\uE817\uE818⺄㑳㑇⺈⺋\uE81E㖞㘚㘎⺌⺗㥮㤘\uE826㧏㧟㩳㧐\uE82B\uE82C㭎㱮㳠⺧\uE831\uE832⺪䁖䅟⺮䌷",
     "⺳⺶⺷\uE83B䎱䎬⺻䏝䓖䙡䙌\uE843䜣䜩䝼䞍⻊䥇䥺䥽䦂䦃䦅䦆䦟䦛䦷䦶\uE854\uE855䲣䲟䲠䲡䱷䲢䴓䴔䴕䴖䴗䴘䴙䶮\uE864"]⟩]

end ScriptBindings.Text.Grid
